import Mathlib
import Catalogue.Log.Logger

/-!
Setting up the logger. Eight words are the standard levels, and two more words stand for something
that is no level: they stop a call before it does anything. Every other name gives the level of
information. The first call that gives a level decides level and handlers, and no call after it
changes them.
-/

namespace Catalogue

theorem CodePoint.upperAscii_ofChar {character : Char} (ascii : character.toNat < 0x80) :
    (ofChar character).upperAscii = [ofChar character.toUpper] := by
  have every : ∀ number < 0x80, (ofChar (Char.ofNat number)).upperAscii =
      [ofChar (Char.ofNat number).toUpper] := by decide
  rw [← Char.ofNat_toNat character]
  exact every character.toNat ascii

theorem Text.upperAscii_ofString {string : String}
    (ascii : ∀ character ∈ string.toList, character.toNat < 0x80) :
    (ofString string).upperAscii = ofString string.toUpper := by
  rw [ofString, ofString, String.toUpper, String.toList_map, List.map_map, upperAscii]
  generalize string.toList = characters at ascii
  induction characters with
  | nil => rfl
  | cons character characters ih =>
      obtain ⟨here, later⟩ := List.forall_mem_cons.mp ascii
      rw [List.map_cons, List.flatMap_cons, CodePoint.upperAscii_ofChar here, ih later]
      rfl

namespace Log

inductive IsStandard : Text → Level → Prop
  | critical : IsStandard "CRITICAL" 50
  | fatal : IsStandard "FATAL" 50
  | error : IsStandard "ERROR" 40
  | warning : IsStandard "WARNING" 30
  | warn : IsStandard "WARN" 30
  | info : IsStandard "INFO" 20
  | debug : IsStandard "DEBUG" 10
  | notSet : IsStandard "NOTSET" 0

/-- The words that stand for something else than a level. -/
inductive IsForeign : Text → LevelFault → Prop
  | format : IsForeign "BASIC_FORMAT" (.wording "%(levelname)s:%(name)s:%(message)s")
  | styles : IsForeign "_STYLES" .styles

def IsMisnomer (name : Text) : Prop := ∃ fault, IsForeign name.upperAscii fault

variable {name : Text} {level : Level} {fault : LevelFault}

theorem isStandard_or_isForeign {entry : Text × Meaning} (member : entry ∈ meanings) :
    (∃ level, IsStandard entry.1 level) ∨ ∃ fault, IsForeign entry.1 fault := by
  simp only [meanings, List.mem_cons, List.not_mem_nil, or_false] at member
  rcases member with rfl | rfl | rfl | rfl | rfl | rfl | rfl | rfl | rfl | rfl
  · exact Or.inl ⟨_, IsStandard.critical⟩
  · exact Or.inl ⟨_, IsStandard.fatal⟩
  · exact Or.inl ⟨_, IsStandard.error⟩
  · exact Or.inl ⟨_, IsStandard.warning⟩
  · exact Or.inl ⟨_, IsStandard.warn⟩
  · exact Or.inl ⟨_, IsStandard.info⟩
  · exact Or.inl ⟨_, IsStandard.debug⟩
  · exact Or.inl ⟨_, IsStandard.notSet⟩
  · exact Or.inr ⟨_, IsForeign.format⟩
  · exact Or.inr ⟨_, IsForeign.styles⟩

namespace Level

theorem ofName_of_standard (standard : IsStandard name.upperAscii level) :
    ofName name = .ok level := by
  rw [ofName, meaning?]
  generalize name.upperAscii = word at standard
  cases standard <;> rfl

theorem ofName_of_foreign (foreign : IsForeign name.upperAscii fault) :
    ofName name = .error fault := by
  rw [ofName, meaning?]
  generalize name.upperAscii = word at foreign
  cases foreign <;> rfl

theorem ofName_of_unknown (unnamed : ∀ level, ¬ IsStandard name.upperAscii level)
    (proper : ¬ IsMisnomer name) : ofName name = .ok info := by
  have unfound : meaning? name = none := by
    rw [meaning?, Option.map_eq_none_iff, List.find?_eq_none]
    intro entry member same
    rw [decide_eq_true_eq] at same
    rcases isStandard_or_isForeign member with ⟨level, standard⟩ | ⟨fault, foreign⟩
    · exact unnamed level (same ▸ standard)
    · exact proper ⟨fault, same ▸ foreign⟩
  rw [ofName, unfound]

theorem ofName_of_proper (proper : ¬ IsMisnomer name) : ∃ level, ofName name = .ok level := by
  by_cases standard : ∃ level, IsStandard name.upperAscii level
  · obtain ⟨level, standard⟩ := standard
    exact ⟨level, ofName_of_standard standard⟩
  · exact ⟨info, ofName_of_unknown (not_exists.mp standard) proper⟩

theorem ofName_congr {other : Text} (alike : name.upperAscii = other.upperAscii) :
    ofName name = ofName other := by
  rw [ofName, ofName, meaning?, meaning?, alike]

end Level

theorem not_isMisnomer_of_standard (standard : IsStandard name.upperAscii level) :
    ¬ IsMisnomer name := by
  rintro ⟨fault, foreign⟩
  have gives := Level.ofName_of_standard standard
  rw [Level.ofName_of_foreign foreign] at gives
  exact absurd gives nofun

/-! Calls -/

structure SetUp where
  level : Text
  hasFile : Bool

namespace Logger

/-- The logger after a call. A call that fails leaves it as it was. -/
def after (logger : Logger) (call : SetUp) : Logger :=
  match logger.setUp call.level call.hasFile with
  | .ok next => next
  | .error _ => logger

def run (logger : Logger) (calls : List SetUp) : Logger := calls.foldl after logger

variable {logger : Logger} {call : SetUp} {calls : List SetUp}

theorem run_cons (logger : Logger) (call : SetUp) (calls : List SetUp) :
    logger.run (call :: calls) = (logger.after call).run calls := rfl

theorem run_append (logger : Logger) (calls later : List SetUp) :
    logger.run (calls ++ later) = (logger.run calls).run later := List.foldl_append

theorem initialHandlers_ne_nil (hasFile : Bool) : initialHandlers hasFile ≠ [] :=
  List.cons_ne_nil _ _

theorem setUp_of_empty (empty : logger.handlers = []) (name : Text) (hasFile : Bool) :
    logger.setUp name hasFile =
      (Level.ofName name).map fun level => ⟨level, initialHandlers hasFile⟩ := by
  rw [setUp, if_pos empty]
  cases Level.ofName name <;> rfl

theorem setUp_of_nonempty (nonempty : logger.handlers ≠ []) (name : Text) (hasFile : Bool) :
    logger.setUp name hasFile = .ok logger :=
  if_neg nonempty

theorem after_of_nonempty (nonempty : logger.handlers ≠ []) (call : SetUp) :
    logger.after call = logger := by
  rw [after, setUp_of_nonempty nonempty]

theorem after_of_misnomer (empty : logger.handlers = []) (misnomer : IsMisnomer call.level) :
    logger.after call = logger := by
  obtain ⟨fault, foreign⟩ := misnomer
  rw [after, setUp_of_empty empty, Level.ofName_of_foreign foreign]
  rfl

theorem run_of_nonempty (nonempty : logger.handlers ≠ []) (calls : List SetUp) :
    logger.run calls = logger := by
  induction calls with
  | nil => rfl
  | cons call calls ih => rw [run_cons, after_of_nonempty nonempty, ih]

theorem run_of_misnomers (empty : logger.handlers = [])
    (misnomers : ∀ call ∈ calls, IsMisnomer call.level) : logger.run calls = logger := by
  induction calls with
  | nil => rfl
  | cons call calls ih =>
      obtain ⟨here, later⟩ := List.forall_mem_cons.mp misnomers
      rw [run_cons, after_of_misnomer empty here, ih later]

/-- On a logger without handlers, a standard level by its name, in whatever case, becomes the level,
the two words for something else stop the call, and every other name gives the level of information.
The case of ASCII letters is of no account. In a run, calls that are stopped leave the logger as it
was; the first other call decides level and handlers, and every call after that succeeds and changes
nothing. A file, if there is one, is one that can be opened. -/
theorem settled_by_first_level (logger : Logger) (empty : logger.handlers = []) :
    (∀ (name : Text) (hasFile : Bool),
      (∀ level, IsStandard name.upperAscii level → logger.setUp name hasFile =
        .ok ⟨level, .console .default :: if hasFile then [.file .default] else []⟩) ∧
      (∀ fault, IsForeign name.upperAscii fault → logger.setUp name hasFile = .error fault) ∧
      ((∀ level, ¬ IsStandard name.upperAscii level) → ¬ IsMisnomer name →
        logger.setUp name hasFile =
          .ok ⟨20, .console .default :: if hasFile then [.file .default] else []⟩)) ∧
    (∀ (name other : String) (hasFile : Bool),
      (∀ character ∈ name.toList ++ other.toList, character.toNat < 0x80) →
      name.toUpper = other.toUpper → logger.setUp name hasFile = logger.setUp other hasFile) ∧
    ∀ before : List SetUp, (∀ call ∈ before, IsMisnomer call.level) →
      logger.run before = logger ∧
      ∀ first : SetUp, ¬ IsMisnomer first.level →
        ∃ settled, logger.setUp first.level first.hasFile = .ok settled ∧
          (∀ later, logger.run (before ++ first :: later) = settled) ∧
          ∀ next : SetUp, settled.setUp next.level next.hasFile = .ok settled := by
  refine ⟨fun name hasFile => ⟨fun level standard => ?_, fun fault foreign => ?_,
    fun unnamed proper => ?_⟩, fun name other hasFile ascii same => ?_,
    fun before misnomers => ⟨run_of_misnomers empty misnomers, fun first proper => ?_⟩⟩
  · rw [setUp_of_empty empty, Level.ofName_of_standard standard]
    rfl
  · rw [setUp_of_empty empty, Level.ofName_of_foreign foreign]
    rfl
  · rw [setUp_of_empty empty, Level.ofName_of_unknown unnamed proper]
    rfl
  · obtain ⟨one, two⟩ := List.forall_mem_append.mp ascii
    have alike : (Text.ofString name).upperAscii = (Text.ofString other).upperAscii := by
      rw [Text.upperAscii_ofString one, Text.upperAscii_ofString two, same]
    rw [setUp_of_empty empty, setUp_of_empty empty, Level.ofName_congr alike]
  · obtain ⟨level, gives⟩ := Level.ofName_of_proper proper
    have settles : logger.setUp first.level first.hasFile =
        .ok ⟨level, initialHandlers first.hasFile⟩ := by
      rw [setUp_of_empty empty, gives]
      rfl
    have nonempty := initialHandlers_ne_nil first.hasFile
    refine ⟨_, settles, fun later => ?_, fun next => setUp_of_nonempty nonempty _ _⟩
    rw [run_append, run_of_misnomers empty misnomers, run_cons, after, settles]
    exact run_of_nonempty nonempty later

theorem settled_by_first_level_dotless :
    let stopped : List SetUp := [⟨"_ﬅyles", true⟩, ⟨"baſıc_format", false⟩]
    let later : List SetUp := [⟨"debug", true⟩, ⟨"_styles", false⟩]
    bare.handlers = [] ∧ bare.run stopped = bare ∧
      bare.run (stopped ++ ⟨"Warnıng", false⟩ :: later) = ⟨30, [.console .default]⟩ ∧
      bare.setUp "warning" false = bare.setUp "WARNing" false := by
  intro stopped later
  obtain ⟨alone, caseless, runs⟩ := settled_by_first_level bare rfl
  have misnomers : ∀ call ∈ stopped, IsMisnomer call.level := by
    intro call member
    simp only [stopped, List.mem_cons, List.not_mem_nil, or_false] at member
    rcases member with rfl | rfl
    · exact ⟨_, IsForeign.styles⟩
    · exact ⟨_, IsForeign.format⟩
  have standard : IsStandard (Text.upperAscii "Warnıng") 30 := IsStandard.warning
  obtain ⟨stays, decides⟩ := runs stopped misnomers
  obtain ⟨settled, sets, same, _⟩ :=
    decides ⟨"Warnıng", false⟩ (not_isMisnomer_of_standard standard)
  have level := (alone "Warnıng" false).1 30 standard
  refine ⟨rfl, stays, ?_, caseless "warning" "WARNing" false (by simp) ?_⟩
  · rw [same later]
    exact Except.ok.inj (sets.symm.trans level)
  · rw [← String.toList_inj, String.toUpper, String.toUpper, String.toList_map, String.toList_map]
    decide

/-- A word that stands for a layout stops the call, and so does one that stands for a table of
layouts. The first call of a run then decides nothing, and the second changes the logger. -/
theorem stopped_by_layout_name :
    bare.setUp "basic_format" false =
        .error (.wording "%(levelname)s:%(name)s:%(message)s") ∧
      bare.setUp "_styles" false = .error .styles ∧
      bare.run [⟨"basic_format", false⟩] = bare ∧
      bare.run [⟨"basic_format", false⟩, ⟨"debug", false⟩] = ⟨10, [.console .default]⟩ :=
  ⟨rfl, rfl, rfl, rfl⟩

end Logger

end Log

end Catalogue
