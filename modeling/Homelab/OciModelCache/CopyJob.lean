import Homelab.Lib.Fallible
import Homelab.OciModelCache.Reference

/-!
# Copy jobs

What `job_builder.go` has a copy job run, how `hf2oci copy` reads those arguments, and the three
references of one model: the webhook's, the resolver's and the copy job's.

* The command line is read by a parameter, `Pflag`, of which is assumed what its documentation says:
  flags and arguments in any order, and a flag that takes a value taking the next argument.
* Sizes of shards and the upload itself are left out.
* Of the job, the container's arguments are kept; its resources, secrets and volumes are left out.
-/

namespace Homelab.OciModelCache

open Homelab.Lib List

/-! ## `modelcache_types.go` -/

/-- Source: `ModelCacheSpec` -/
structure Spec where
  repo : Text
  registry : Text
  revision : Text
  file : Text
  tag : Text
  modelDir : Text
  deriving DecidableEq, Repr

/-! ## `job_builder.go` -/

/-- Source: `buildCopyJob`, the container's arguments. -/
def copyArgs (syncMaxParallel : Text) (spec : Spec) : List Text :=
  ["copy".toList, spec.repo, "--registry".toList, spec.registry, "-o".toList, "json".toList,
    "-O".toList, "/dev/termination-log".toList]
    ++ (if spec.revision ≠ [] then ["--revision".toList, spec.revision] else [])
    ++ (if spec.file ≠ [] then ["--file".toList, spec.file] else [])
    ++ (if spec.tag ≠ [] then ["--tag".toList, spec.tag] else [])
    ++ (if spec.modelDir ≠ [] then ["--model-dir".toList, spec.modelDir] else [])
    ++ (if syncMaxParallel ≠ [] then ["--max-parallel".toList, syncMaxParallel] else [])

/-! ## The command line of `hf2oci` -/

/-- The flags of `copy`, those of `root.go` and `output.go` included. -/
inductive Flag where
  | registry
  | revision
  | tag
  | modelDir
  | file
  | includeMMProj
  | maxShardSize
  | maxParallel
  | dryRun
  | output
  | outputFile
  | verbose
  deriving DecidableEq, Repr

namespace Flag

def long : Flag → Text
  | registry => "registry".toList
  | revision => "revision".toList
  | tag => "tag".toList
  | modelDir => "model-dir".toList
  | file => "file".toList
  | includeMMProj => "include-mmproj".toList
  | maxShardSize => "max-shard-size".toList
  | maxParallel => "max-parallel".toList
  | dryRun => "dry-run".toList
  | output => "output".toList
  | outputFile => "output-file".toList
  | verbose => "verbose".toList

def short : Flag → Option Char
  | registry => some 'r'
  | tag => some 't'
  | output => some 'o'
  | outputFile => some 'O'
  | verbose => some 'v'
  | _ => none

/-- Flags that need no value. -/
def isBool : Flag → Bool
  | includeMMProj => true
  | dryRun => true
  | verbose => true
  | _ => false

end Flag

/-- A part of a command line: an argument, or a flag and its value. -/
inductive Word where
  | arg (s : Text)
  | long (f : Flag) (value : Text)
  | short (f : Flag) (value : Text)
  deriving DecidableEq, Repr

namespace Word

/-- The part as it stands on the command line. -/
def written : Word → List Text
  | arg s => [s]
  | long f value => ['-' :: '-' :: f.long, value]
  | short f value => ['-' :: f.short.toList, value]

/-- The part reads as it is meant: an argument does not start with a hyphen, and a flag has its name
and takes a value. -/
def plain : Word → Bool
  | arg s => s.head? ≠ some '-'
  | long f _ => !f.isBool
  | short f _ => !f.isBool && f.short.isSome

/-- The argument, if the part is one. -/
def arg? : Word → Option Text
  | arg s => some s
  | _ => none

/-- The flag and its value, if the part is one. -/
def setting? : Word → Option (Flag × Text)
  | arg _ => none
  | long f value => some (f, value)
  | short f value => some (f, value)

end Word

/-- What a command line says. -/
structure CommandLine where
  args : List Text
  /-- The flags with a value, the latest first. -/
  set : List (Flag × Text)
  /-- The flags without one. -/
  on : List Flag
  deriving DecidableEq

def CommandLine.value? (line : CommandLine) (f : Flag) : Option Text := line.set.lookup f

/-- `spf13/pflag`, as far as its documentation goes: flags and arguments may be mixed, a flag that
takes a value takes the next argument whatever it is, and a value that is not of the flag's type is
an error. -/
structure Pflag where
  parse : List Text → Option CommandLine
  /-- The value is of the flag's type. -/
  takes : Flag → Text → Bool
  reads : ∀ words : List Word, (∀ w ∈ words, w.plain = true) →
    parse (words.flatMap Word.written) =
      if (words.filterMap Word.setting?).all fun e => takes e.1 e.2 then
        some ⟨words.filterMap Word.arg?, (words.filterMap Word.setting?).reverse, []⟩
      else none

/-- Source: `copy.go` of the command, the options `Copy` gets. -/
structure CopyOptions where
  repo : Text
  registry : Text
  revision : Text
  tag : Text
  modelDir : Text
  file : Text
  includeMMProj : Bool
  dryRun : Bool
  deriving DecidableEq, Repr

/-- `hf2oci` on a command line, up to the call of `Copy`; `none` when it stops before. -/
def runCopy (pflag : Pflag) (args : List Text) : Option CopyOptions :=
  match args with
  | [] => none
  | cmd :: args => do
    guard (cmd = "copy".toList)
    let line ← pflag.parse args
    let [repo] := line.args | none
    let registry ← line.value? .registry
    let output := (line.value? .output).getD "text".toList
    guard (output = "text".toList ∨ output = "json".toList)
    guard ((line.value? .outputFile).getD [] = [] ∨ output = "json".toList)
    return {
      repo := repo
      registry := registry
      revision := (line.value? .revision).getD "main".toList
      tag := (line.value? .tag).getD []
      modelDir := (line.value? .modelDir).getD []
      file := (line.value? .file).getD []
      includeMMProj := .includeMMProj ∈ line.on
      dryRun := .dryRun ∈ line.on }

/-! ## The three references of a model -/

/-- Source: `pod_mutator.go`, `ensureModelCache`. The schema's default fills in the revision. -/
def webhookSpec (registry : Text) (ref : HfRef) : Spec where
  repo := ref.repo
  registry := registry
  revision := "main".toList
  file := ref.file
  tag := []
  modelDir := []

/-- Source: `main.go`, `hf2ociResolver.Resolve`. It has no tag to pass on. -/
def resolverRef (hub : Hub) (spec : Spec) : Except ResolveFailure Text :=
  (resolve hub spec.repo spec.registry spec.revision [] spec.file false).map Result.ref

/-- The reference the copy job of a cache checks and pushes to, if it gets there. -/
def jobRef (hub : Hub) (pflag : Pflag) (syncMaxParallel : Text) (spec : Spec) :
    Option (Except ResolveFailure Text) :=
  (runCopy pflag (copyArgs syncMaxParallel spec)).map fun o =>
    copyTarget hub o.repo o.registry o.revision o.tag o.file o.includeMMProj

/-! ## Reading the job's arguments back -/

/-- What an optional flag of the job adds: nothing when its value is empty. -/
def optionWords (f : Flag) (v : Text) : List Word := if v ≠ [] then [.long f v] else []

/-- The parts that every job's command line has. -/
def fixedWords (spec : Spec) : List Word :=
  [.arg spec.repo, .long .registry spec.registry, .short .output "json".toList,
    .short .outputFile "/dev/termination-log".toList]

/-- The parts of a job's command line. -/
def jobWords (syncMaxParallel : Text) (spec : Spec) : List Word :=
  fixedWords spec ++ optionWords .revision spec.revision ++ optionWords .file spec.file
    ++ optionWords .tag spec.tag ++ optionWords .modelDir spec.modelDir
    ++ optionWords .maxParallel syncMaxParallel

lemma written_optionWords (f : Flag) (v : Text) : (optionWords f v).flatMap Word.written =
    if v ≠ [] then ['-' :: '-' :: f.long, v] else [] := by
  unfold optionWords
  split <;> rfl

lemma arg?_optionWords (f : Flag) (v : Text) : (optionWords f v).filterMap Word.arg? = [] := by
  unfold optionWords
  split <;> rfl

lemma lookup_optionWords (f g : Flag) (v : Text) :
    ((optionWords f v).filterMap Word.setting?).reverse.lookup g =
      if v ≠ [] ∧ f = g then some v else none := by
  unfold optionWords
  by_cases hv : v = []
  · simp [hv]
  · by_cases hg : f = g
    · simp [hv, hg, Word.setting?]
    · simp [hv, hg, Word.setting?, lookup_cons, beq_false_of_ne (Ne.symm hg)]

lemma plain_optionWords {f : Flag} (hf : f.isBool = false) (v : Text) :
    ∀ w ∈ optionWords f v, w.plain = true := by
  unfold optionWords
  split
  · simpa [Word.plain] using hf
  · simp

section

variable (syncMaxParallel : Text) (spec : Spec)

lemma copyArgs_eq : copyArgs syncMaxParallel spec =
    "copy".toList :: (jobWords syncMaxParallel spec).flatMap Word.written := by
  simp only [jobWords, flatMap_append, written_optionWords]
  rfl

lemma plain_jobWords (h : spec.repo.head? ≠ some '-') :
    ∀ w ∈ jobWords syncMaxParallel spec, w.plain = true := by
  simp only [jobWords, forall_mem_append]
  refine ⟨⟨⟨⟨⟨?_, plain_optionWords rfl _⟩, plain_optionWords rfl _⟩, plain_optionWords rfl _⟩,
    plain_optionWords rfl _⟩, plain_optionWords rfl _⟩
  simp [fixedWords, Word.plain, Flag.isBool, Flag.short, h]

/-- What the job's command line says. -/
def jobLine : CommandLine :=
  ⟨[spec.repo], ((jobWords syncMaxParallel spec).filterMap Word.setting?).reverse, []⟩

/-- What each flag of the job's command line is set to. -/
lemma value?_jobLine (f : Flag) : (jobLine syncMaxParallel spec).value? f =
    match f with
    | .registry => some spec.registry
    | .revision => if spec.revision ≠ [] then some spec.revision else none
    | .tag => if spec.tag ≠ [] then some spec.tag else none
    | .modelDir => if spec.modelDir ≠ [] then some spec.modelDir else none
    | .file => if spec.file ≠ [] then some spec.file else none
    | .maxParallel => if syncMaxParallel ≠ [] then some syncMaxParallel else none
    | .output => some "json".toList
    | .outputFile => some "/dev/termination-log".toList
    | _ => none := by
  have hfixed : ((fixedWords spec).filterMap Word.setting?).reverse.lookup f = match f with
      | .registry => some spec.registry
      | .output => some "json".toList
      | .outputFile => some "/dev/termination-log".toList
      | _ => none := by
    cases f <;> rfl
  unfold CommandLine.value? jobLine jobWords
  simp only [filterMap_append, reverse_append, lookup_append, lookup_optionWords, hfixed]
  cases f <;> simp

variable {syncMaxParallel spec}

lemma parse_jobWords {pflag : Pflag} {line : CommandLine} (h : spec.repo.head? ≠ some '-')
    (hline : pflag.parse ((jobWords syncMaxParallel spec).flatMap Word.written) = some line) :
    line = jobLine syncMaxParallel spec := by
  rw [pflag.reads _ (plain_jobWords syncMaxParallel spec h)] at hline
  split at hline
  · rw [← Option.some.inj hline]
    simp only [jobLine, jobWords, filterMap_append, arg?_optionWords, append_nil]
    rfl
  · cases hline

end

lemma getD_ite_ne_nil (v d : Text) :
    (if v ≠ [] then some v else none).getD d = if v = [] then d else v := by
  split <;> simp_all

lemma ite_eq_self_of_nil (v : Text) : (if v = [] then [] else v) = v := by
  split <;> simp_all

/-- **The command reads back what the job was built from.** -/
theorem runCopy_copyArgs {pflag : Pflag} {syncMaxParallel : Text} {spec : Spec}
    (h : spec.repo.head? ≠ some '-') {o : CopyOptions}
    (ho : runCopy pflag (copyArgs syncMaxParallel spec) = some o) :
    o = ⟨spec.repo, spec.registry, orMain spec.revision, spec.tag, spec.modelDir, spec.file, false,
      false⟩ := by
  rw [copyArgs_eq] at ho
  obtain ⟨-, -, ho⟩ := Option.bind_eq_some_iff.mp ho
  obtain ⟨line, hline, ho⟩ := Option.bind_eq_some_iff.mp ho
  rw [parse_jobWords h hline] at ho
  simp only [value?_jobLine, Option.getD_some, getD_ite_ne_nil, ite_eq_self_of_nil] at ho
  simp only [jobLine, Option.bind_eq_bind, Option.bind_some, not_mem_nil, decide_false,
    Option.pure_def] at ho
  obtain ⟨-, -, ho⟩ := Option.bind_eq_some_iff.mp ho
  obtain ⟨-, -, ho⟩ := Option.bind_eq_some_iff.mp ho
  exact (Option.some.inj ho).symm

/-! ## When the three agree -/

section

variable {hub : Hub} {repo registry revision tag file ref : Text} {includeMMProj : Bool}

lemma resolveModel_ok {rm : ResolvedModel}
    (h : resolveModel hub repo registry revision tag file includeMMProj = .ok rm) :
    ∃ c, listModel hub repo revision file includeMMProj = .ok c ∧
      rm.refStr = modelRef hub c repo registry revision tag file := by
  obtain ⟨c, hlist, h⟩ := except_bind_eq_ok.mp h
  refine ⟨c, hlist, ?_⟩
  dsimp only at h
  split at h
  · obtain ⟨_, hthrow, -⟩ := except_bind_eq_ok.mp h
    cases hthrow
  · rw [← Except.ok.inj h]

/-- What `Resolve` answers is `modelRef` of the listing. -/
lemma resolve_ok {r : Result}
    (h : resolve hub repo registry revision tag file includeMMProj = .ok r) :
    ∃ c, listModel hub repo (orMain revision) file includeMMProj = .ok c ∧
      r.ref = modelRef hub c repo registry (orMain revision) tag file := by
  obtain ⟨rm, hrm, h⟩ := except_bind_eq_ok.mp h
  obtain ⟨digest, -, h⟩ := except_bind_eq_ok.mp h
  obtain ⟨c, hc, href⟩ := resolveModel_ok hrm
  refine ⟨c, hc, ?_⟩
  rw [← Except.ok.inj h]
  exact href

/-- So is what `Copy` writes to. -/
lemma copyTarget_ok (h : copyTarget hub repo registry revision tag file includeMMProj = .ok ref) :
    ∃ c, listModel hub repo (orMain revision) file includeMMProj = .ok c ∧
      ref = modelRef hub c repo registry (orMain revision) tag file := by
  obtain ⟨rm, hrm, h⟩ := except_bind_eq_ok.mp h
  obtain ⟨c, hc, href⟩ := resolveModel_ok hrm
  exact ⟨c, hc, (Except.ok.inj h).symm.trans href⟩

lemma orMain_orMain (revision : Text) : orMain (orMain revision) = orMain revision := by
  unfold orMain
  by_cases h : revision = []
  · simp [h]
  · simp [h]

/-- Whether a tag override reaches the reference: only without a selector and without a base
model. -/
def TagReaches (hub : Hub) (repo file : Text) : Prop :=
  file = [] ∧ (hub.modelInfo repo).bind ModelInfo.baseModel = none

lemma modelRef_of_not_tagReaches (h : ¬TagReaches hub repo file) (c : Classified) :
    modelRef hub c repo registry revision tag file =
      modelRef hub c repo registry revision [] file := by
  unfold modelRef
  rcases hb : (hub.modelInfo repo).bind ModelInfo.baseModel with _ | base
  · have hfile : file ≠ [] := fun hf => h ⟨hf, hb⟩
    simp only [hfile, ne_eq, not_false_eq_true, if_true]
  · simp only [hb]

/-- The two derivations meet when the files kept hold no projector and a selector picks from GGUF
files. -/
lemma modelRef_eq_resolveRef {c : Classified} (hformat : file ≠ [] → c.format = .gguf)
    (hplain : ∀ w ∈ c.weights, isMMProj hub w.path = false) :
    modelRef hub c repo registry "main".toList [] file = resolveRef hub repo registry file := by
  have hsuffix : (c.weights.any fun w => isMMProj hub w.path) = false := by
    rw [any_eq_false]
    intro w hw
    simp [hplain w hw]
  unfold modelRef resolveRef resolveRefOf
  simp only [hsuffix, Bool.false_eq_true, if_false, append_nil]
  by_cases hfile : file = []
  · simp only [hfile, ne_eq, not_true_eq_false, if_false]
  · rw [hformat hfile]
    rfl

lemma resolverRef_ok {spec : Spec} (h : resolverRef hub spec = .ok ref) :
    ∃ c, listModel hub spec.repo (orMain spec.revision) spec.file false = .ok c ∧
      ref = modelRef hub c spec.repo spec.registry (orMain spec.revision) [] spec.file := by
  obtain ⟨r, hr, rfl⟩ := except_map_eq_ok.mp h
  exact resolve_ok hr

lemma jobRef_ok {pflag : Pflag} {syncMaxParallel : Text} {spec : Spec}
    (hrepo : spec.repo.head? ≠ some '-')
    (h : jobRef hub pflag syncMaxParallel spec = some (.ok ref)) :
    ∃ c, listModel hub spec.repo (orMain spec.revision) spec.file false = .ok c ∧
      ref = modelRef hub c spec.repo spec.registry (orMain spec.revision) spec.tag spec.file := by
  obtain ⟨o, ho, hcopy⟩ := Option.map_eq_some_iff.mp h
  rw [runCopy_copyArgs hrepo ho] at hcopy
  obtain ⟨c, hc, href⟩ := copyTarget_ok hcopy
  rw [orMain_orMain] at hc href
  exact ⟨c, hc, href⟩

end

/-- **The webhook, the resolver and the copy job name one reference.** A cache the webhook makes for
files without a projector, a selector picking from GGUF files, is resolved to the reference the
webhook wrote into the pod; and any cache whose tag override does not reach the reference is copied
to where it was resolved. A repository that starts with a hyphen is read as a flag. -/
theorem references_agree (hub : Hub) (pflag : Pflag) (syncMaxParallel : Text) :
    (∀ registry h ref c, resolverRef hub (webhookSpec registry h) = .ok ref →
        listModel hub h.repo "main".toList h.file false = .ok c → (h.file ≠ [] → c.format = .gguf) →
        (∀ w ∈ c.weights, isMMProj hub w.path = false) →
        resolveRef hub h.repo registry h.file = ref) ∧
      ∀ spec : Spec, spec.repo.head? ≠ some '-' →
        (spec.tag = [] ∨ ¬TagReaches hub spec.repo spec.file) →
        ∀ ref ref', resolverRef hub spec = .ok ref →
          jobRef hub pflag syncMaxParallel spec = some (.ok ref') → ref' = ref := by
  constructor
  · intro registry h ref c hr hc hformat hplain
    obtain ⟨c', hc', rfl⟩ := resolverRef_ok hr
    have heq : c' = c := Except.ok.inj (hc'.symm.trans hc)
    subst heq
    exact (modelRef_eq_resolveRef hformat hplain).symm
  · intro spec hrepo htag ref ref' hr hj
    obtain ⟨c, hc, rfl⟩ := resolverRef_ok hr
    obtain ⟨c', hc', rfl⟩ := jobRef_ok hrepo hj
    have heq : c' = c := Except.ok.inj (hc'.symm.trans hc)
    subst heq
    rcases htag with htag | htag
    · rw [htag]
    · exact modelRef_of_not_tagReaches htag c'

/-- A hub that answers the same for every repository, with ASCII case and an empty registry. -/
def sampleHub (entries : List TreeEntry) (info : ModelInfo) : Hub where
  unicode := ⟨Char.toLower, fun a b => a.map Char.toLower == b.map Char.toLower, fun _ _ => rfl⟩
  digest := ⟨fun _ => 0⟩
  tree := fun _ _ => .ok entries
  modelInfo := fun _ => some info
  parses := fun _ => true
  checkExists := fun _ => .ok none

/-- The parts of a command line, read one after the other. -/
def sampleWords : List Text → Option (List Word)
  | [] => some []
  | s :: rest =>
    if s.head? ≠ some '-' then (sampleWords rest).map (.arg s :: ·)
    else
      match rest with
      | [] => none
      | value :: rest =>
        let flags : List Flag := [.registry, .revision, .tag, .modelDir, .file, .maxShardSize,
          .maxParallel, .output, .outputFile]
        let long := (flags.find? fun f => '-' :: '-' :: f.long = s).map (Word.long · value)
        let short := (flags.find? fun f => '-' :: f.short.toList = s).map (Word.short · value)
        (long.or short).bind fun w => (sampleWords rest).map (w :: ·)

lemma sampleWords_written {words : List Word} (h : ∀ w ∈ words, w.plain = true) :
    sampleWords (words.flatMap Word.written) = some words := by
  induction words with
  | nil => rfl
  | cons w words ih =>
    have ih := ih fun w hw => h w (mem_cons_of_mem _ hw)
    have hplain := h w mem_cons_self
    rw [flatMap_cons]
    cases w with
    | arg s =>
      have hs : s.head? ≠ some '-' := of_decide_eq_true hplain
      change sampleWords (s :: words.flatMap Word.written) = _
      unfold sampleWords
      rw [if_pos hs, ih]
      rfl
    | long f value =>
      cases f <;> first
        | exact absurd hplain Bool.false_ne_true
        | exact congrArg (Option.map _) ih
    | short f value =>
      cases f <;> first
        | exact absurd hplain Bool.false_ne_true
        | exact congrArg (Option.map _) ih

/-- A parser that reads such command lines and nothing else. -/
def samplePflag : Pflag where
  parse args := (sampleWords args).map fun words =>
    ⟨words.filterMap Word.arg?, (words.filterMap Word.setting?).reverse, []⟩
  takes _ _ := true
  reads words h := by
    rw [sampleWords_written h, if_pos (all_eq_true.mpr fun _ _ => rfl)]
    rfl

/-- A selected GGUF file next to a projector that the selector leaves out: all three references of
the cache the webhook makes, with the premises of the agreement. -/
theorem references_agree_selected_quantization :
    let hub :=
      sampleHub [⟨true, "Llama-Q4_K_M.gguf".toList, 7⟩, ⟨true, "mmproj-BF16.gguf".toList, 1⟩]
      ⟨"bartowski/Llama-GGUF".toList, [], none⟩
    let h : HfRef := ⟨"bartowski/Llama-GGUF".toList, "Llama-Q4_K_M".toList⟩
    let ref := "r/bartowski/llama-gguf:bartowski-gguf-llama-q4-k-m".toList
    resolveRef hub h.repo ['r'] h.file = ref ∧ resolverRef hub (webhookSpec ['r'] h) = .ok ref ∧
      jobRef hub samplePflag [] (webhookSpec ['r'] h) = some (.ok ref) ∧
      ∀ ref', jobRef hub samplePflag [] (webhookSpec ['r'] h) = some (.ok ref') → ref' = ref := by
  intro hub h ref
  have hr : resolverRef hub (webhookSpec ['r'] h) = .ok ref := by decide +kernel
  have hc : listModel hub h.repo "main".toList h.file false =
      .ok ⟨[], [⟨true, "Llama-Q4_K_M.gguf".toList, 7⟩], .gguf⟩ := by decide +kernel
  have hall := references_agree hub samplePflag []
  refine ⟨hall.1 ['r'] h ref _ hr hc (fun _ => rfl) (by decide +kernel), hr, by decide +kernel,
    fun ref' => ?_⟩
  exact hall.2 (webhookSpec ['r'] h) (by decide +kernel) (Or.inl rfl) ref ref' hr

/-- The agreement fails without each of its premises: for a projector beside the only weights, for a
selector on safetensors, for a tag override that reaches the reference, and for a repository that is
read as a flag. -/
theorem references_differ : let info : ModelInfo := ⟨"org/model".toList, [], none⟩
    let projector :=
      sampleHub [⟨true, "m.gguf".toList, 7⟩, ⟨true, "mmproj-BF16.gguf".toList, 1⟩] info
    let tensors := sampleHub [⟨true, "m.safetensors".toList, 7⟩] info
    let plain := sampleHub [⟨true, "m.gguf".toList, 7⟩] info
    let tagged : Spec := ⟨"org/model".toList, ['r'], "main".toList, [], "latest".toList, []⟩
    let hyphen : Spec := ⟨"-r".toList, "org/model".toList, "main".toList, [], [], []⟩
    (resolveRef projector "org/model".toList ['r'] [] = "r/org/model:rev-main".toList ∧
        resolverRef projector (webhookSpec ['r'] ⟨"org/model".toList, []⟩) =
          .ok "r/org/model:rev-main-mmproj".toList) ∧
      (resolveRef tensors "org/model".toList ['r'] ['q'] = "r/org/model:org-gguf-q".toList ∧
        resolverRef tensors (webhookSpec ['r'] ⟨"org/model".toList, ['q']⟩) =
          .ok "r/org/model:org-safetensors-q".toList) ∧
      (resolverRef plain tagged = .ok "r/org/model:rev-main".toList ∧
        jobRef plain samplePflag [] tagged = some (.ok "r/org/model:latest".toList)) ∧
      (resolverRef plain hyphen = .ok "org/model/-r:rev-main".toList ∧
        jobRef plain samplePflag [] hyphen =
          some (.ok "--registry/org/model:rev-main".toList)) := by
  decide +kernel

end Homelab.OciModelCache
