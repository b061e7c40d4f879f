import Homelab.OciModelCache.Naming

/-!
# OCI references

`ociref.go`, `classify.go` and `resolve.go` of `hf2oci`: how the reference a model is stored under
is derived from what Hugging Face says about its repository. There are two derivations. `resolveRef`
is the light one, which asks for the model info only; `resolveModel` also lists the repository.

* Hugging Face, the registry and the reference parser are parameters (`Hub`). A `Hub` does not
  change, so all questions about one repository get the same answers.
* Failures are constructors with the data their texts are made of.
-/

namespace Homelab.OciModelCache

open Homelab.Lib.DnsName

/-! ## `types.go` -/

/-- A file or directory of a repository. -/
structure TreeEntry where
  /-- `Type == "file"` -/
  isFile : Bool
  path : Text
  size : Int
  deriving DecidableEq, Repr

structure BaseModels where
  relation : Text
  models : List Text
  deriving DecidableEq, Repr

/-- What the hub says of a model. -/
structure ModelInfo where
  id : Text
  author : Text
  baseModels : Option BaseModels
  deriving DecidableEq, Repr

/-- `info.BaseModels != nil && len(info.BaseModels.Models) > 0`, with the first of them. -/
def ModelInfo.baseModel (info : ModelInfo) : Option Text :=
  info.baseModels.bind fun b => b.models.head?

/-- An error of the Hugging Face client, with the status code if it is an `APIError`. -/
structure ApiFailure where
  statusCode : Option Nat
  deriving DecidableEq, Repr

/-- The answers of the hub. -/
structure Hub where
  unicode : Unicode
  digest : Digest
  /-- `client.Tree(repo, revision)` -/
  tree : Text → Text → Except ApiFailure (List TreeEntry)
  /-- `client.ModelInfo(repo)`; `none` is an error. -/
  modelInfo : Text → Option ModelInfo
  /-- `name.ParseReference` accepts the text. -/
  parses : Text → Bool
  /-- `oci.CheckExists`: the digest stored under a reference, if any. -/
  checkExists : Text → Except ApiFailure (Option Text)

/-! ## `ociref.go` -/

/-- The tag given, or one from the revision. -/
def deriveTag (tag revision : Text) : Text :=
  if tag ≠ [] then tag
  else
    let rev := if byteLen revision > 12 then takeBytes 12 revision else revision
    "rev-".toList ++ rev

section

variable (hub : Hub) (repo registry revision tag file : Text) (includeMMProj : Bool)

def deriveRepoName : Text := hub.unicode.toLower repo

def deriveVariantTag : Text := hub.unicode.toLower (replaceAll '/' '-' repo)

/-- `path.Base` -/
def pathBase (path : Text) : Text :=
  if path = [] then ['.']
  else
    let s := path.rdropWhile (· = '/')
    if s = [] then ['/'] else s.rtakeWhile (· ≠ '/')

def knownExtensions : List Text :=
  [".gguf".toList, ".safetensors".toList, ".bin".toList, ".pt".toList]

def deriveCompactVariantTag (author format file baseModelName : Text) : Text :=
  let stem := hub.unicode.toLower baseModelName
  let remainder :=
    if stem.isPrefixOf (hub.unicode.toLower file) then
      (dropBytes (byteLen stem) file).dropWhile fun c => c == '-' || c == '_'
    else file
  let remainder :=
    match knownExtensions.find? fun ext => ext.isSuffixOf (hub.unicode.toLower remainder) with
    | some ext => takeBytes (byteLen remainder - byteLen ext) remainder
    | none => remainder
  let tag := replaceAll '_' '-' (hub.unicode.toLower (author ++ '-' :: format ++ '-' :: remainder))
  if byteLen tag > 128 then hub.digest.base36Hash (author ++ ':' :: file) else tag

/-- The author `DeriveFileTag` finds. -/
def ModelInfo.authorName (info : ModelInfo) : Text :=
  if info.author = [] ∧ '/' ∈ info.id then info.id.takeWhile (· ≠ '/') else info.author

/-- The tag when a file is selected. -/
def deriveFileTag (info : Option ModelInfo) (format file : Text) : Text :=
  match info with
  | none => deriveVariantTag hub file
  | some info =>
    if info.authorName = [] then deriveVariantTag hub file
    else
      let baseModelName := (info.baseModel.map pathBase).getD []
      deriveCompactVariantTag hub info.authorName format file baseModelName

/-- `fmt.Sprintf("%s/%s:%s", registry, repoPath, ociTag)` -/
def refText (repoPath ociTag : Text) : Text :=
  registry ++ '/' :: repoPath ++ ':' :: ociTag

/-- Source: `ociref.go`, `ResolveRef`, given what `ModelInfo` answered. -/
def resolveRefOf (info : Option ModelInfo) (repo registry file : Text) : Text :=
  match info.bind ModelInfo.baseModel with
  | some base =>
    refText registry (deriveRepoName hub base)
      (if file ≠ [] then deriveFileTag hub info "gguf".toList file else deriveVariantTag hub repo)
  | none =>
    refText registry (deriveRepoName hub repo)
      (if file ≠ [] then deriveFileTag hub info "gguf".toList file
        else deriveTag [] "main".toList)

/-- Registry, repository and tag in one. -/
def resolveRef : Text :=
  resolveRefOf hub (hub.modelInfo repo) repo registry file

/-! ## `classify.go` -/

inductive ModelFormat where
  | safetensors
  | gguf
  deriving DecidableEq, Repr

def ModelFormat.text : ModelFormat → Text
  | .safetensors => "safetensors".toList
  | .gguf => "gguf".toList

def configFiles : List Text :=
  ["config.json".toList, "tokenizer.json".toList, "tokenizer_config.json".toList,
    "generation_config.json".toList, "special_tokens_map.json".toList,
    "model.safetensors.index.json".toList, "vocab.txt".toList, "merges.txt".toList,
    "preprocessor_config.json".toList, "chat_template.json".toList, "added_tokens.json".toList,
    "quantize_config.json".toList, "quant_config.json".toList,
    "tokenizer_config.json.template".toList]

/-- `filepath.Ext` of a base name. -/
def extension (base : Text) : Text :=
  if '.' ∈ base then '.' :: base.rtakeWhile (· ≠ '.') else []

/-- Why a model cannot be resolved. -/
inductive ResolveFailure where
  | listing (e : ApiFailure)
  | mixedFormats
  | noWeights
  | noMatch (file : Text) (have_ : List Text)
  | ambiguous (variants : Nat) (have_ : List Text)
  | badReference (ref : Text)
  | registry (e : ApiFailure)
  deriving DecidableEq, Repr

/-- The files of a model, and their format. -/
structure Classified where
  configs : List TreeEntry
  weights : List TreeEntry
  format : ModelFormat
  deriving DecidableEq, Repr

/-- The kind of weight file an entry is, if it is one. -/
def weightFormat (e : TreeEntry) : Option ModelFormat :=
  let base := pathBase e.path
  if !e.isFile || configFiles.contains base then none
  else
    let ext := hub.unicode.toLower (extension base)
    if ext = ".safetensors".toList then some .safetensors
    else if ext = ".gguf".toList then some .gguf
    else none

/-- The config and weight files; the weights have one format. -/
def classify (entries : List TreeEntry) : Except ResolveFailure Classified :=
  let configs := entries.filter fun e => e.isFile && configFiles.contains (pathBase e.path)
  let weights := entries.filter fun e => (weightFormat hub e).isSome
  let hasSafetensors := entries.any fun e => weightFormat hub e == some .safetensors
  let hasGGUF := entries.any fun e => weightFormat hub e == some .gguf
  if hasSafetensors && hasGGUF then .error .mixedFormats
  else if !hasSafetensors && !hasGGUF then .error .noWeights
  else .ok ⟨configs, weights, if hasSafetensors then .safetensors else .gguf⟩

/-! ## `resolve.go` -/

def isMMProj (path : Text) : Bool :=
  "mmproj".toList.isPrefixOf (hub.unicode.toLower (pathBase path))

/-- Source: `ggufFileList`, before the names are joined. -/
def ggufFileList (weights : List TreeEntry) : List Text :=
  weights.map fun w =>
    if ".gguf".toList.isSuffixOf w.path then w.path.take (w.path.length - 5) else w.path

/-- Step 3 of `resolveModel`: the weights the file selector keeps. -/
def selectWeights (c : Classified) (file : Text) (includeMMProj : Bool) :
    Except ResolveFailure (List TreeEntry) :=
  if c.format = .gguf then
    if file ≠ [] then
      let target := file ++ ".gguf".toList
      let filtered := c.weights.filter fun w =>
        hub.unicode.equalFold w.path target || (includeMMProj && isMMProj hub w.path)
      if filtered = [] then .error (.noMatch file (ggufFileList c.weights)) else .ok filtered
    else
      let nonMMProj := c.weights.filter fun w => !isMMProj hub w.path
      if c.weights.length > 1 ∧ nonMMProj.length > 1 then
        .error (.ambiguous c.weights.length (ggufFileList c.weights))
      else .ok c.weights
  else .ok c.weights

/-- Steps 1 to 3 of `resolveModel`: list, classify, select. -/
def listModel : Except ResolveFailure Classified := do
  let entries ← (hub.tree repo revision).mapError .listing
  let c ← classify hub entries
  let weights ← selectWeights hub c file includeMMProj
  return { c with weights := weights }

/-- Step 4 of `resolveModel`: the tag before the projector suffix, under the repository path. -/
def modelRef (c : Classified) (repo registry revision tag file : Text) : Text :=
  let info := hub.modelInfo repo
  let suffix := if c.weights.any fun w => isMMProj hub w.path then "-mmproj".toList else []
  match info.bind ModelInfo.baseModel with
  | some base =>
    refText registry (deriveRepoName hub base)
      ((if file ≠ [] then deriveFileTag hub info c.format.text file else deriveVariantTag hub repo)
        ++ suffix)
  | none =>
    refText registry (deriveRepoName hub repo)
      ((if file ≠ [] then deriveFileTag hub info c.format.text file else deriveTag tag revision)
        ++ suffix)

/-- Source: `resolvedModel` -/
structure ResolvedModel where
  refStr : Text
  files : Classified
  fileCount : Nat
  totalSize : Int
  deriving DecidableEq, Repr

/-- Source: `resolveModel` -/
def resolveModel : Except ResolveFailure ResolvedModel := do
  let c ← listModel hub repo revision file includeMMProj
  let refStr := modelRef hub c repo registry revision tag file
  if !hub.parses refStr then throw (.badReference refStr)
  return {
    refStr := refStr
    files := c
    fileCount := c.configs.length + c.weights.length
    totalSize := ((c.configs ++ c.weights).map TreeEntry.size).sum }

/-- Source: `copy.go`, `Result` -/
structure Result where
  ref : Text
  digest : Text
  cached : Bool
  repo : Text
  revision : Text
  format : ModelFormat
  fileCount : Nat
  totalSize : Int
  deriving DecidableEq, Repr

def orMain : Text := if revision = [] then "main".toList else revision

/-- Source: `resolve.go`, `Resolve` -/
def resolve : Except ResolveFailure Result := do
  let revision := orMain revision
  let rm ← resolveModel hub repo registry revision tag file includeMMProj
  let digest ← (hub.checkExists rm.refStr).mapError .registry
  return {
    ref := rm.refStr
    digest := digest.getD []
    cached := digest.isSome
    repo := repo
    revision := revision
    format := rm.files.format
    fileCount := rm.fileCount
    totalSize := rm.totalSize }

/-- Source: `copy.go`, `Copy`, up to the reference it checks and pushes to. -/
def copyTarget : Except ResolveFailure Text := do
  let rm ← resolveModel hub repo registry (orMain revision) tag file includeMMProj
  return rm.refStr

end

end Homelab.OciModelCache
