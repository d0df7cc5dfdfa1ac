import Mathlib.Data.List.Sort

/-!
# Loader — model files on disk

The file-resolution half of `ModelLoader` (`ai_service/model_loader.py`):
`_find_model_files`, `_find_latest_version`, `_extract_version`,
`_validate_model_files`, `_calculate_checksum` and `list_versions`.

The model directory is the list of its entries in the order `Path.glob`
yields them, each with its name, its `st_mtime` and its bytes. All paths
the loader builds are `model_dir / <file name>`, so a path is its file
name here and `str(path)` is rendered as `modelDir ++ "/" ++ name`. The
`pathlib` operations the code relies on (`.stem`, `.with_suffix`,
`.exists()`, `glob`) and `str.replace` are spelled out on `List Char`,
as CPython computes them. The one departure: `glob` reads `[` literally,
so character classes in a model name are not modelled.
-/

namespace ViewGuard

/-! ## The directory -/

/-- One directory entry: file name, modification time, contents. -/
structure FileEntry where
  name : String
  mtime : Nat
  bytes : List UInt8
  deriving DecidableEq, Repr

/-- A model directory: entries in `glob` order; a directory never holds
two entries of one name. Every entry is a regular file, so what `glob`
lists also `exists()`: dangling symlinks, which `glob` lists and
`exists()` denies, are outside the model. -/
structure ModelDir where
  entries : List FileEntry
  names_nodup : (entries.map FileEntry.name).Nodup

/-- `(model_dir / name).exists()`. -/
def ModelDir.exists (d : ModelDir) (name : String) : Bool :=
  d.entries.any (·.name == name)

/-- The entry a path names, if the file exists. -/
def ModelDir.find? (d : ModelDir) (name : String) : Option FileEntry :=
  d.entries.find? (·.name == name)

/-- What the host provides: the rendered `model_dir` and `hashlib.sha256`
as a function from a file's bytes to its hex digest. -/
structure Host where
  modelDir : String
  sha256 : List UInt8 → String

/-- `str(self.model_dir / name)`. -/
def Host.path (host : Host) (name : String) : String :=
  host.modelDir ++ "/" ++ name

/-! ## `pathlib` and `str` operations -/

/-- Index of the last `'.'`, as `str.rfind('.')` (`none` for `-1`). -/
def rfindDot : List Char → Option Nat
  | [] => none
  | c :: cs =>
    match rfindDot cs with
    | some i => some (i + 1)
    | none => if c = '.' then some 0 else none

/-- `PurePath.stem`: the name without its last suffix, where a suffix
starts at a dot that is neither the first nor the last character. -/
def pathStem (name : String) : String :=
  match rfindDot name.data with
  | some i => if 0 < i ∧ i < name.length - 1 then ⟨name.data.take i⟩ else name
  | none => name

/-- `PurePath.with_suffix(suffix)`: the stem followed by `suffix`. -/
def withSuffix (name suffix : String) : String :=
  pathStem name ++ suffix

/-- `fnmatch` for a pattern of literal characters, `*` and `?`. The
character classes `[...]` of `pathlib` are not modelled: the patterns
here are built from a model name and an extension, taken without `[`. -/
def globMatch : List Char → List Char → Bool
  | [], s => s.isEmpty
  | '*' :: p, s => (List.range (s.length + 1)).any fun k => globMatch p (s.drop k)
  | '?' :: p, s => !s.isEmpty && globMatch p s.tail
  | c :: p, s => s.head? == some c && globMatch p s.tail

/-- `str.replace(old, "")` with fuel: every non-overlapping occurrence of
`old`, scanning left to right, is deleted (an empty `old` deletes nothing). -/
def removeAllAux (old : List Char) : Nat → List Char → List Char
  | 0, s => s
  | _ + 1, [] => []
  | n + 1, c :: cs =>
    if old ≠ [] ∧ old.isPrefixOf (c :: cs) then removeAllAux old n ((c :: cs).drop old.length)
    else c :: removeAllAux old n cs

/-- `s.replace(old, "")`; the string's length is fuel enough. -/
def strRemove (s old : String) : String :=
  ⟨removeAllAux old.data s.length s.data⟩

/-! ## Resolution -/

/-- `ModelInfo`: what one load records about one on-disk artefact
(`path`, always `model_dir`, is left out). -/
structure ModelInfo where
  name : String
  version : String
  format : String
  xmlPath : String
  binPath : Option String := none
  checksum : Option String := none
  loadedAt : Option Nat := none
  inputShape : Option (List Nat) := none
  outputShape : Option (List Nat) := none
  deriving DecidableEq, Repr

/-- The exceptions the loader raises; `engineError` is whatever the
inference engine itself raised, and `callbackStr` whatever `str(e)` raised
in the handler around the reload callback (its class is not kept). -/
inductive LoadError where
  | runtimeError (msg : String)
  | fileNotFound (msg : String)
  | valueError (msg : String)
  | engineError (msg : String)
  | callbackStr (msg : String)
  deriving DecidableEq, Repr

/-- Python truthiness of an `Optional[str]`. -/
def truthy : Option String → Bool
  | some v => v ≠ ""
  | none => false

/-- `_extract_version(filename, model_name)`. -/
def extractVersion (filename modelName : String) : String :=
  let versionPart := strRemove filename (modelName ++ "_")
  if versionPart = filename then "latest" else versionPart

/-- Stable sort by `st_mtime`, newest first (`sort(key=..., reverse=True)`). -/
def newestFirst (files : List FileEntry) : List FileEntry :=
  files.insertionSort fun a b => b.mtime ≤ a.mtime

/-- The candidates of `_find_latest_version`: the `glob` matches of
`{name}_*{ext}` in directory order, then `{name}{ext}` when it exists. -/
def candidates (d : ModelDir) (modelName extension : String) : List FileEntry :=
  let pattern := modelName ++ "_*" ++ extension
  let matching := d.entries.filter fun e => globMatch pattern.data e.name.data
  match d.find? (modelName ++ extension) with
  | some base => matching ++ [base]
  | none => matching

/-- `_find_latest_version(model_name, extension)`: the newest candidate,
its `.bin` companion when the extension is `.xml` and it exists, and the
version read off its stem. -/
def findLatestVersion (host : Host) (d : ModelDir) (modelName extension : String) :
    Except LoadError (String × Option String × String) :=
  match newestFirst (candidates d modelName extension) with
  | [] => .error (.fileNotFound ("No model files found for \x27" ++ modelName ++ "\x27 in "
      ++ host.modelDir))
  | latest :: _ =>
    let version := extractVersion (pathStem latest.name) modelName
    let binPath :=
      if extension = ".xml" ∧ d.exists (withSuffix latest.name ".bin") then
        some (withSuffix latest.name ".bin")
      else none
    .ok (latest.name, binPath, version)

/-- `bin_path if bin_path and bin_path.exists() else None`. -/
def existingOrNone (d : ModelDir) : Option String → Option String
  | some b => if d.exists b then some b else none
  | none => none

/-- `_find_model_files(model_name, model_format, version)`: the given
version names `{name}_{version}.xml` (and `.bin`), or `.onnx`; without
one, `_find_latest_version` decides. -/
def findModelFiles (host : Host) (d : ModelDir) (modelName modelFormat : String)
    (version : Option String) : Except LoadError ModelInfo :=
  let v := version.getD ""
  if modelFormat = "openvino" then
    match (if truthy version then
        .ok (modelName ++ "_" ++ v ++ ".xml", some (modelName ++ "_" ++ v ++ ".bin"), v)
      else findLatestVersion host d modelName ".xml") with
    | .error e => .error e
    | .ok (xmlPath, binPath, version) =>
      if !d.exists xmlPath then .error (.fileNotFound ("Model XML file not found: "
        ++ host.path xmlPath))
      else .ok { name := modelName, version := if version = "" then "unknown" else version,
                 format := "openvino", xmlPath,
                 binPath := existingOrNone d binPath }
  else if modelFormat = "onnx" then
    match (if truthy version then .ok (modelName ++ "_" ++ v ++ ".onnx", none, v)
      else findLatestVersion host d modelName ".onnx") with
    | .error e => .error e
    | .ok (onnxPath, _, version) =>
      if !d.exists onnxPath then .error (.fileNotFound ("Model ONNX file not found: "
        ++ host.path onnxPath))
      else .ok { name := modelName, version := if version = "" then "unknown" else version,
                 format := "onnx", xmlPath := onnxPath }
  else .error (.valueError ("Unsupported model format: " ++ modelFormat))

/-- `_calculate_checksum(file_path)`: opening a missing file raises. -/
def calculateChecksum (host : Host) (d : ModelDir) (name : String) : Except LoadError String :=
  match d.find? name with
  | some e => .ok (host.sha256 e.bytes)
  | none => .error (.fileNotFound ("[Errno 2] No such file or directory: \x27"
      ++ host.path name ++ "\x27"))

/-- `_validate_model_files(model_info)`, returning the info with its
checksum set: `sha(xml)`, or `sha(xml):sha(bin)` when there is a `bin_path`. -/
def validateModelFiles (host : Host) (d : ModelDir) (info : ModelInfo) :
    Except LoadError ModelInfo :=
  if !d.exists info.xmlPath then
    .error (.fileNotFound ("Model file not found: " ++ host.path info.xmlPath))
  else
    match info.binPath with
    | some b =>
      if info.format = "openvino" ∧ !d.exists b then
        .error (.fileNotFound ("Model binary file not found: " ++ host.path b))
      else
        match calculateChecksum host d info.xmlPath, calculateChecksum host d b with
        | .ok xmlSum, .ok binSum => .ok { info with checksum := some (xmlSum ++ ":" ++ binSum) }
        | .error e, _ => .error e
        | _, .error e => .error e
    | none =>
      match calculateChecksum host d info.xmlPath with
      | .ok xmlSum => .ok { info with checksum := some xmlSum }
      | .error e => .error e

/-! ## Listing -/

/-- `ModelVersion`; `created_at` is the file's `st_mtime`. -/
structure ModelVersion where
  version : String
  path : String
  checksum : String
  createdAt : Nat
  deriving DecidableEq, Repr

/-- `list_versions(model_name)`: one entry per `glob` match of
`{name}_*.xml`, then the bare `{name}.xml` as `"latest"`, newest first. -/
def listVersions (host : Host) (d : ModelDir) (modelName : String) : List ModelVersion :=
  let versioned := (d.entries.filter fun e => globMatch (modelName ++ "_*.xml").data e.name.data).map
    fun e => ModelVersion.mk (extractVersion (pathStem e.name) modelName) e.name
      (host.sha256 e.bytes) e.mtime
  let all := match d.find? (modelName ++ ".xml") with
    | some e => versioned ++ [ModelVersion.mk "latest" e.name (host.sha256 e.bytes) e.mtime]
    | none => versioned
  all.insertionSort fun a b => b.createdAt ≤ a.createdAt

end ViewGuard

namespace ViewGuard

/-! ## Resolution facts -/

/-- A validated `ModelInfo` carries a checksum. -/
theorem validateModelFiles_checksum {host : Host} {d : ModelDir} {info info' : ModelInfo}
    (h : validateModelFiles host d info = .ok info') : info'.checksum.isSome := by
  unfold validateModelFiles at h
  split_ifs at h
  split at h
  · split_ifs at h
    split at h <;> cases h
    rfl
  · split at h <;> cases h
    rfl

end ViewGuard
