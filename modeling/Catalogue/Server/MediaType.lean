import Catalogue.Text.LetterCase

/-!
Media types. The type of a file is read off the ending of its name. An ending that says how the
file is packed is taken away first, and a short one is written out before that.
-/

namespace Catalogue

structure MediaType where
  family : String
  subtype : String
  deriving DecidableEq

namespace MediaType

def json : MediaType := ⟨"application", "json"⟩
def bytes : MediaType := ⟨"application", "octet-stream"⟩
def html : MediaType := ⟨"text", "html"⟩
def plain : MediaType := ⟨"text", "plain"⟩

def header (mediaType : MediaType) : String :=
  mediaType.family ++ "/" ++ mediaType.subtype ++
    if mediaType.family = "text" then "; charset=utf-8" else ""

def endings : List (MediaType × String) :=
  [(⟨"application", "javascript"⟩, "js mjs"),
    (.json, "json"),
    (⟨"application", "manifest+json"⟩, "webmanifest"),
    (⟨"application", "msword"⟩, "doc dot wiz"),
    (⟨"application", "n-quads"⟩, "nq"),
    (⟨"application", "n-triples"⟩, "nt"),
    (.bytes, "bin a dll exe o obj so"),
    (⟨"application", "oda"⟩, "oda"),
    (⟨"application", "pdf"⟩, "pdf"),
    (⟨"application", "pkcs7-mime"⟩, "p7c"),
    (⟨"application", "postscript"⟩, "ps ai eps"),
    (⟨"application", "trig"⟩, "trig"),
    (⟨"application", "vnd.apple.mpegurl"⟩, "m3u m3u8"),
    (⟨"application", "vnd.ms-excel"⟩, "xls xlb"),
    (⟨"application", "vnd.ms-powerpoint"⟩, "ppt pot ppa pps pwz"),
    (⟨"application", "wasm"⟩, "wasm"),
    (⟨"application", "x-bcpio"⟩, "bcpio"),
    (⟨"application", "x-cpio"⟩, "cpio"),
    (⟨"application", "x-csh"⟩, "csh"),
    (⟨"application", "x-dvi"⟩, "dvi"),
    (⟨"application", "x-gtar"⟩, "gtar"),
    (⟨"application", "x-hdf"⟩, "hdf"),
    (⟨"application", "x-hdf5"⟩, "h5"),
    (⟨"application", "x-latex"⟩, "latex"),
    (⟨"application", "x-mif"⟩, "mif"),
    (⟨"application", "x-netcdf"⟩, "cdf nc"),
    (⟨"application", "x-pkcs12"⟩, "p12 pfx"),
    (⟨"application", "x-pn-realaudio"⟩, "ram"),
    (⟨"application", "x-sh"⟩, "sh"),
    (⟨"application", "x-shar"⟩, "shar"),
    (⟨"application", "x-shockwave-flash"⟩, "swf"),
    (⟨"application", "x-sv4cpio"⟩, "sv4cpio"),
    (⟨"application", "x-sv4crc"⟩, "sv4crc"),
    (⟨"application", "x-tar"⟩, "tar"),
    (⟨"application", "x-tcl"⟩, "tcl"),
    (⟨"application", "x-tex"⟩, "tex"),
    (⟨"application", "x-texinfo"⟩, "texi texinfo"),
    (⟨"application", "x-troff"⟩, "roff t tr"),
    (⟨"application", "x-troff-man"⟩, "man"),
    (⟨"application", "x-troff-me"⟩, "me"),
    (⟨"application", "x-troff-ms"⟩, "ms"),
    (⟨"application", "x-ustar"⟩, "ustar"),
    (⟨"application", "x-wais-source"⟩, "src"),
    (⟨"application", "xml"⟩, "xsl rdf wsdl xpdl"),
    (⟨"application", "zip"⟩, "zip"),
    (⟨"audio", "3gpp"⟩, "3gp 3gpp"),
    (⟨"audio", "3gpp2"⟩, "3g2 3gpp2"),
    (⟨"audio", "aac"⟩, "aac adts loas ass"),
    (⟨"audio", "basic"⟩, "au snd"),
    (⟨"audio", "mpeg"⟩, "mp3 mp2"),
    (⟨"audio", "opus"⟩, "opus"),
    (⟨"audio", "x-aiff"⟩, "aif aifc aiff"),
    (⟨"audio", "x-pn-realaudio"⟩, "ra"),
    (⟨"audio", "x-wav"⟩, "wav"),
    (⟨"image", "avif"⟩, "avif"),
    (⟨"image", "bmp"⟩, "bmp"),
    (⟨"image", "gif"⟩, "gif"),
    (⟨"image", "heic"⟩, "heic"),
    (⟨"image", "heif"⟩, "heif"),
    (⟨"image", "ief"⟩, "ief"),
    (⟨"image", "jpeg"⟩, "jpg jpe jpeg"),
    (⟨"image", "png"⟩, "png"),
    (⟨"image", "svg+xml"⟩, "svg"),
    (⟨"image", "tiff"⟩, "tiff tif"),
    (⟨"image", "vnd.microsoft.icon"⟩, "ico"),
    (⟨"image", "x-cmu-raster"⟩, "ras"),
    (⟨"image", "x-portable-anymap"⟩, "pnm"),
    (⟨"image", "x-portable-bitmap"⟩, "pbm"),
    (⟨"image", "x-portable-graymap"⟩, "pgm"),
    (⟨"image", "x-portable-pixmap"⟩, "ppm"),
    (⟨"image", "x-rgb"⟩, "rgb"),
    (⟨"image", "x-xbitmap"⟩, "xbm"),
    (⟨"image", "x-xpixmap"⟩, "xpm"),
    (⟨"image", "x-xwindowdump"⟩, "xwd"),
    (⟨"message", "rfc822"⟩, "eml mht mhtml nws"),
    (⟨"text", "css"⟩, "css"),
    (⟨"text", "csv"⟩, "csv"),
    (.html, "html htm"),
    (⟨"text", "n3"⟩, "n3"),
    (.plain, "txt bat c h ksh pl srt"),
    (⟨"text", "richtext"⟩, "rtx"),
    (⟨"text", "tab-separated-values"⟩, "tsv"),
    (⟨"text", "vtt"⟩, "vtt"),
    (⟨"text", "x-setext"⟩, "etx"),
    (⟨"text", "x-sgml"⟩, "sgm sgml"),
    (⟨"text", "x-vcard"⟩, "vcf"),
    (⟨"text", "xml"⟩, "xml"),
    (⟨"video", "mp4"⟩, "mp4"),
    (⟨"video", "mpeg"⟩, "mpeg m1v mpa mpe mpg"),
    (⟨"video", "quicktime"⟩, "mov qt"),
    (⟨"video", "webm"⟩, "webm"),
    (⟨"video", "x-msvideo"⟩, "avi"),
    (⟨"video", "x-sgi-movie"⟩, "movie")]

/-- Endings of packed files that stand for two at once. -/
def shortEndings : List (Text × Text) :=
  [("svgz", ".svg.gz"), ("tgz", ".tar.gz"), ("taz", ".tar.gz"), ("tz", ".tar.gz"),
    ("tbz2", ".tar.bz2"), ("txz", ".tar.xz")]

/-- Endings that say how a file is packed, in exactly this letter case. -/
def packedEndings : List Text := ["gz", "Z", "bz2", "xz", "br"]

/-- A name cut at its last point, unless only points stand before it. -/
def cutEnding (name : Text) : Text × Option Text :=
  let isPoint := fun (code : CodePoint) => code = CodePoint.ofChar '.'
  let (points, rest) := name.span isPoint
  let (ending, stem) := rest.reverse.span (!isPoint ·)
  match stem with
  | [] => (name, none)
  | _ :: stem => (points ++ stem.reverse, some ending.reverse)

def writeOut (name : Text) : Text :=
  match cutEnding name with
  | (stem, some ending) =>
    match shortEndings.find? (·.1 = ending.lower) with
    | some (_, long) => stem ++ long
    | none => name
  | _ => name

def unpack (name : Text) : Text :=
  match cutEnding name with
  | (stem, some ending) => if packedEndings.contains ending then stem else name
  | _ => name

def ofEnding? (ending : Text) : Option MediaType :=
  (endings.find? fun (_, known) =>
    ((Text.ofString known).splitOn CodePoint.space).contains ending.lower).map (·.1)

def ofFileName (name : Text) : MediaType :=
  (((cutEnding (unpack (writeOut name))).2).bind ofEnding?).getD bytes

end MediaType

end Catalogue
