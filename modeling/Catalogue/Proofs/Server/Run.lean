import Mathlib
import Catalogue.Proofs.Server.App

/-!
Runs of a server while the files change. A server that keeps no document answers every query from
the file as it is. One that keeps documents goes through the same states, but for the document that
it holds: the first one loaded in the run, which answers every query after that.
-/

namespace Catalogue

structure Site where
  app : App
  system : FileSystem

/-- What happens in a run: files are written, deleted or replaced in any way, the service is asked
a query, or a request is sent. -/
inductive Step where
  | files (system : FileSystem)
  | ask (query : Query)
  | send (request : Request)

inductive Answer where
  | nothing
  | answered (entries : List Log.Entry) (answer : Except QueryFailure Selection)
  | responded (entries : List Log.Entry) (response : Response)

namespace Step

def query? : Step → Option Query
  | files _ => none
  | ask query => some query
  | send request => request.query?

def answerAfter (step : Step) (query : Query) (path : Text)
    (loaded : Except LoadFailure Document) : Answer :=
  match step with
  | .files _ => .nothing
  | .ask _ => .answered (query.entriesAfter path loaded) (query.answerAfter loaded)
  | .send request =>
    let (response, entries) := App.responseTo path request (query.answerAfter loaded)
    .responded (query.entriesAfter path loaded ++ entries) response

end Step

namespace Site

def path (site : Site) : Path := site.app.service.path

def withService (site : Site) (service : Service) : Site :=
  ⟨site.app.withService service, site.system⟩

def step (site : Site) : Step → Site × Answer
  | .files system => (⟨site.app, system⟩, .nothing)
  | .ask query =>
    let outcome := site.app.service.answer site.system query
    (site.withService outcome.service, .answered outcome.entries outcome.answer)
  | .send request =>
    let outcome := site.app.respond site.system request
    (⟨outcome.app, site.system⟩, .responded outcome.entries outcome.response)

def run (site : Site) (steps : List Step) : Site :=
  steps.foldl (fun site step => (site.step step).1) site

def answers (site : Site) : List Step → List Answer
  | [] => []
  | step :: steps => (site.step step).2 :: (site.step step).1.answers steps

def renewed (site : Site) (keeps : Bool) : Site :=
  site.withService (Service.create site.path keeps)

def loaded? (site : Site) (step : Step) : Option Document :=
  step.query?.bind fun _ => (Document.load site.system site.path).toOption

def firstLoaded? (site : Site) : List Step → Option Document
  | [] => none
  | step :: steps => (site.loaded? step).or ((site.step step).1.firstLoaded? steps)

variable {site : Site} {step : Step} {query : Query} {service : Service}

theorem step_of_query (asks : step.query? = some query) :
    site.step step =
      (site.withService (site.app.service.load site.system).1,
        step.answerAfter query site.path.toText (site.app.service.load site.system).2) := by
  cases step with
  | files => exact absurd asks nofun
  | ask =>
      obtain rfl := Option.some.inj asks
      rw [Site.step, Service.answer_eq]
      rfl
  | send request =>
      rw [Site.step, App.respond_of_query asks, App.answerQuery_eq]
      rfl

theorem step_withService (asks : step.query? = none) (service : Service)
    (same : service.path = site.path) :
    (site.withService service).step step =
      ((site.step step).1.withService service, (site.step step).2) := by
  cases step with
  | files => rfl
  | ask => exact absurd asks nofun
  | send request =>
      have responds := App.respond_withService site.system asks same
      rw [Site.step, Site.step]
      dsimp only [withService]
      rw [responds]
      rfl

theorem step_service (site : Site) (asks : step.query? = none) :
    (site.step step).1.app.service = site.app.service := by
  have same : site.step step = ((site.step step).1.withService site.app.service, _) :=
    step_withService asks site.app.service rfl
  exact congrArg (fun result => result.1.app.service) same

@[simp] theorem step_path (site : Site) (step : Step) : (site.step step).1.path = site.path := by
  cases asks : step.query? with
  | none => rw [path, step_service site asks, path]
  | some query =>
      rw [step_of_query asks]
      exact Service.load_path site.app.service site.system

def KeepsNothing (site : Site) : Prop := site.app.service = Service.create site.path false

theorem keepsNothing_renewed (site : Site) : (site.renewed false).KeepsNothing := rfl

theorem KeepsNothing.kept (nothing : site.KeepsNothing) : site.app.service.kept = none :=
  congrArg Service.kept nothing

theorem KeepsNothing.load (nothing : site.KeepsNothing) (system : FileSystem) :
    site.app.service.load system = (site.app.service, Document.load system site.path) := by
  have keeps : site.app.service.keepsDocument = false := congrArg Service.keepsDocument nothing
  cases loaded : Document.load system site.path with
  | ok document =>
      rw [Service.load_of_loaded nothing.kept loaded, Service.store_of_not_keeps keeps]
  | error failure => exact Service.load_of_failed nothing.kept loaded

theorem KeepsNothing.after_step (nothing : site.KeepsNothing) (step : Step) :
    (site.step step).1.KeepsNothing := by
  rw [KeepsNothing, step_path, ← nothing]
  cases asks : step.query? with
  | none => exact step_service site asks
  | some query =>
      rw [step_of_query asks, nothing.load]
      rfl

theorem KeepsNothing.after_run (nothing : site.KeepsNothing) (steps : List Step) :
    (site.run steps).KeepsNothing := by
  induction steps generalizing site with
  | nil => exact nothing
  | cons step steps ih => exact ih (nothing.after_step step)

@[simp] theorem run_path (site : Site) (steps : List Step) : (site.run steps).path = site.path := by
  induction steps generalizing site with
  | nil => rfl
  | cons step steps ih => exact (ih (site.step step).1).trans (step_path site step)

/-! Runs with documents kept -/

def holding (site : Site) (kept : Option Document) : Site :=
  site.withService ⟨site.path, true, kept⟩

theorem step_holding (site : Site) (kept : Option Document) (step : Step) :
    ((site.holding kept).step step).1 =
      (site.step step).1.holding (kept.or (site.loaded? step)) := by
  rw [loaded?]
  cases asks : step.query? with
  | none =>
      rw [holding, step_withService asks ⟨site.path, true, kept⟩ rfl, Option.bind_none,
        Option.or_none, holding, step_path]
  | some query =>
      -- What was held stays, and where nothing was, what the file gives is held.
      have loads := Service.load_fst_of_keeps site.path kept site.system
      rw [step_of_query asks, step_of_query asks]
      dsimp only [holding, withService, path, App.withService_service] at loads ⊢
      rw [loads, Service.load_path]
      rfl

theorem run_holding (site : Site) (kept : Option Document) (steps : List Step) :
    (site.holding kept).run steps =
      (site.run steps).holding (kept.or (site.firstLoaded? steps)) := by
  -- Both runs go through the same states but for what is held, so the states stay related.
  induction steps generalizing site kept with
  | nil => rw [firstLoaded?, Option.or_none]; rfl
  | cons step steps ih =>
      have next : (site.holding kept).run (step :: steps) =
          ((site.holding kept).step step).1.run steps := rfl
      rw [next, step_holding, ih, Option.or_assoc, firstLoaded?]
      rfl

theorem step_holding_other (site : Site) (kept : Option Document) (asks : step.query? = none) :
    ((site.holding kept).step step).2 = (site.step step).2 := by
  rw [holding, step_withService asks ⟨site.path, true, kept⟩ rfl]

theorem step_holding_some (site : Site) (document : Document) (asks : step.query? = some query) :
    ((site.holding (some document)).step step).2 =
      step.answerAfter query site.path.toText (.ok document) := by
  rw [step_of_query asks]
  rfl

theorem KeepsNothing.holding_none (nothing : site.KeepsNothing) (step : Step) :
    ((site.holding none).step step).2 = (site.step step).2 := by
  cases asks : step.query? with
  | none => exact step_holding_other site none asks
  | some query =>
      have loads : (Service.load ⟨site.path, true, none⟩ site.system).2 =
          Document.load site.system site.path := Service.load_snd rfl
      rw [step_of_query asks, step_of_query asks, nothing.load]
      dsimp only [holding, withService, path, App.withService_service] at loads ⊢
      rw [loads]

theorem KeepsNothing.answers_holding_none (nothing : site.KeepsNothing) {steps : List Step}
    (unloaded : site.firstLoaded? steps = none) (last : Step) :
    (site.holding none).answers (steps ++ [last]) = site.answers (steps ++ [last]) := by
  induction steps generalizing site with
  | nil => rw [List.nil_append, answers, answers, nothing.holding_none, answers, answers]
  | cons step steps ih =>
      rw [firstLoaded?, Option.or_eq_none_iff] at unloaded
      obtain ⟨here, later⟩ := unloaded
      rw [List.cons_append, answers, answers, nothing.holding_none, step_holding, here,
        Option.or_none, ih (nothing.after_step step) later]

theorem firstLoaded?_append (site : Site) (before after : List Step) :
    site.firstLoaded? (before ++ after) =
      (site.firstLoaded? before).or ((site.run before).firstLoaded? after) := by
  induction before generalizing site with
  | nil => rw [List.nil_append, firstLoaded?, Option.none_or]; rfl
  | cons step before ih =>
      rw [List.cons_append, firstLoaded?, ih, firstLoaded?, Option.or_assoc]
      rfl

theorem run_holding_first {before : List Step} {document : Document}
    (unloaded : site.firstLoaded? before = none)
    (loads : (site.run before).loaded? step = some document) (more : List Step) :
    (site.holding none).run (before ++ step :: more) =
      (site.run (before ++ step :: more)).holding (some document) := by
  rw [run_holding, firstLoaded?_append, unloaded, firstLoaded?, loads, Option.none_or,
    Option.none_or, Option.some_or]

theorem load_of_loaded? {document : Document} (loads : site.loaded? step = some document) :
    Document.load site.system site.path = .ok document := by
  obtain ⟨_, _, found⟩ := Option.bind_eq_some_iff.mp loads
  cases loaded : Document.load site.system site.path with
  | ok _ =>
      rw [loaded] at found
      rw [Option.some.inj found]
  | error _ =>
      rw [loaded] at found
      exact absurd found nofun

/-- Without documents kept every query is answered as by a new service, and from the file alone.
With documents kept the answers are the same up to the first load that succeeds, and no load that
fails stores anything; the document of that load is held from then on and answers every query,
whatever becomes of the file. Steps without queries leave the service alone. -/
theorem keeps_first_loaded (site : Site) :
    let path := site.path
    let fresh := site.renewed false
    let keeping := site.renewed true
    (∀ steps step,
      (fresh.run steps).app.service = Service.create path false ∧
      (∀ keeps, ((fresh.run steps).step step).2 =
        (((fresh.run steps).renewed keeps).step step).2) ∧
      ∀ query system, step.query? = some query →
        system.content path = (fresh.run steps).system.content path →
          ((fresh.run steps).step step).2 =
            step.answerAfter query path.toText (Document.load system path)) ∧
    (∀ before step, fresh.firstLoaded? before = none →
      (keeping.run before).app.service = Service.create path true ∧
      keeping.answers (before ++ [step]) = fresh.answers (before ++ [step])) ∧
    (∀ before step document more next, fresh.firstLoaded? before = none →
      (fresh.run before).loaded? step = some document →
        let steps := before ++ step :: more
        (keeping.run steps).app.service = ⟨path, true, some document⟩ ∧
        (∀ query, next.query? = some query →
          ((keeping.run steps).step next).2 =
            next.answerAfter query path.toText (.ok document)) ∧
        ((fresh.run steps).system.content path = (fresh.run before).system.content path →
          ((keeping.run steps).step next).2 = ((fresh.run steps).step next).2)) ∧
    ∀ steps step, step.query? = none →
      ((keeping.run steps).step step).1.app.service = (keeping.run steps).app.service ∧
      ((keeping.run steps).step step).2 = ((fresh.run steps).step step).2 := by
  intro path fresh keeping
  have nothing (steps : List Step) : (fresh.run steps).KeepsNothing :=
    (keepsNothing_renewed site).after_run steps
  have place (steps : List Step) : (fresh.run steps).path = path := run_path fresh steps
  have start : keeping = fresh.holding none := rfl
  refine ⟨fun steps step => ⟨?_, fun keeps => ?_, fun query system asks same => ?_⟩,
    fun before step unloaded => ⟨?_, ?_⟩,
    fun before step document more next unloaded loads => ⟨?_, fun query asks => ?_, fun same => ?_⟩,
    fun steps step asks => ⟨step_service _ asks, ?_⟩⟩
  · rw [nothing steps, place]
  · cases keeps with
    | false => rw [renewed, ← nothing steps]; rfl
    | true => exact ((nothing steps).holding_none step).symm
  · rw [Document.load_congr same, step_of_query asks, (nothing steps).load, place]
  · rw [start, run_holding, unloaded, Option.none_or, holding, place]
    rfl
  · rw [start, (keepsNothing_renewed site).answers_holding_none unloaded]
  · rw [start, run_holding_first unloaded loads, holding, place]
    rfl
  · rw [start, run_holding_first unloaded loads, step_holding_some _ document asks, place]
  · have loaded := load_of_loaded? loads
    rw [place] at loaded
    rw [start, run_holding_first unloaded loads]
    cases asks : next.query? with
    | none => exact step_holding_other _ _ asks
    | some query =>
        rw [step_holding_some _ document asks, step_of_query asks, (nothing _).load, place,
          Document.load_congr same, loaded]
  · rw [start, run_holding, step_holding_other _ _ asks]

/-- The file is missing at first, and again after a query has loaded it. A painting of it is still
found, and another one is not; an empty document is held too, though the query that loads it finds
nothing. -/
theorem keeps_first_loaded_seven :
    let site : Site := ⟨⟨.default, Service.create ⟨.slash, ["p"]⟩ true, none, .blank⟩, .empty⟩
    let health : Step := .send ⟨getMethod, [], healthPath, []⟩
    let seven : Query := .painting "7"
    let before (text : Text) : List Step :=
      [.ask .all, .files ⟨[([[0x70]], .file text.utf8)]⟩, health]
    let keeping (text : Text) :=
      (site.renewed true).run (before text ++ .ask seven :: [.files .empty])
    let painting : Painting := ⟨[("paintingID", .integer 7)]⟩
    let held := keeping "[\x7b\"paintingID\":7\x7d]"
    (held.app.service = ⟨⟨.slash, ["p"]⟩, true, some [painting]⟩ ∧
      (held.step (.ask seven)).2 =
        .answered [seven.entry (some (.one painting))] (.ok (.one painting)) ∧
      (held.step (.ask (.painting "8"))).2 =
        .answered [Query.entry (.painting "8") none] (.error (.notFound (.painting "8"))) ∧
      (held.step health).1.app.service = held.app.service) ∧
    (keeping "[]").app.service = ⟨⟨.slash, ["p"]⟩, true, some []⟩ ∧
      ((keeping "[]").step (.ask .all)).2 =
        .answered [Query.all.entry (some (.many []))] (.ok (.many [])) := by
  intro site health seven before keeping painting held
  obtain ⟨_, _, holds, others⟩ := keeps_first_loaded site
  have loads (next : Step) := holds (before "[\x7b\"paintingID\":7\x7d]") (.ask seven) [painting]
    [.files .empty] next rfl rfl
  have loadsNothing (next : Step) := holds (before "[]") (.ask seven) [] [.files .empty] next rfl rfl
  refine ⟨⟨(loads health).1, ?_, ?_, (others _ health rfl).1⟩, (loadsNothing health).1,
    (loadsNothing (.ask .all)).2.1 .all rfl⟩
  · have named : painting.identifier.isNamedBy "7" = true := by decide +kernel
    have found : Query.select [painting] (.painting "7") = some (.one painting) := by
      simp only [Query.select, List.find?_cons, named, Option.map_some]
    rw [(loads (.ask seven)).2.1 seven rfl]
    change Answer.answered [seven.entry (seven.select [painting])] (seven.answerOver [painting]) = _
    rw [Query.answerOver_of_some found, found]
  · have unnamed : painting.identifier.isNamedBy "8" = false := by decide +kernel
    have missing : Query.select [painting] (.painting "8") = none := by
      simp only [Query.select, List.find?_cons, unnamed, List.find?_nil, Option.map_none]
    rw [(loads (.ask (.painting "8"))).2.1 (.painting "8") rfl]
    change Answer.answered [Query.entry (.painting "8") (Query.select [painting] (.painting "8"))]
      (Query.answerOver (.painting "8") [painting]) = _
    rw [Query.answerOver_of_none missing, missing]

end Site

end Catalogue
