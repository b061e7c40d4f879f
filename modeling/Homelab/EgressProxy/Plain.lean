import Mathlib
import Homelab.EgressProxy.Http

/-!
# A plain reader and writer of requests

An executable `GoStd` on which streams can be run: requests in origin form, with a chunked body or a
`Content-Length`. As in `net/http`, the fields of a trailer section are merged into those that were
declared and written with them; when none was declared, no trailer section is written. It is no
model of `net/http`, but it has all that is documented of it (`http_documented`).
-/

namespace Homelab.EgressProxy.Plain

open Homelab.Lib List

/-! ## Names -/

variable (bytes : Bytes) (s : String) (upper : Bool) (c : Char)

def isToken : Bool := c.isAlphanum || "!#$%&'*+-.^_|~".toList.contains c

def recase : Char := if upper then c.toUpper else c.toLower

/-- Upper case at the start and after a hyphen, lower case elsewhere. -/
def canonicalChars : (upper : Bool) → List Char → List Char
  | _, [] => []
  | upper, c :: cs => recase upper c :: canonicalChars (c == '-') cs

/-- `Content-Type` for `content-type`. -/
def canonical : String :=
  if s.toList.all isToken then String.ofList (canonicalChars true s.toList) else s

def lower : List Char := s.toList.map Char.toLower

lemma recase_of_not_isAlpha {c : Char} (h : ¬c.isAlpha) (upper : Bool) : recase upper c = c := by
  simp only [Char.isAlpha, Bool.or_eq_true, not_or] at h
  cases upper with
  | false => exact Char.toLower_eq_of_not_isUpper h.1
  | true => exact Char.toUpper_eq_of_not_isLower h.2

lemma isAlpha_recase : (recase upper c).isAlpha = c.isAlpha := by
  cases upper <;> simp [recase]

lemma recase_hyphen : (recase upper c == '-') = (c == '-') := by
  by_cases halpha : c.isAlpha
  · have hne : ∀ c' : Char, c'.isAlpha → (c' == '-') = false := by
      intro c' h
      rw [beq_eq_false_iff_ne]
      rintro rfl
      exact absurd h (by decide)
    rw [hne c halpha, hne _ (by rwa [isAlpha_recase])]
  · rw [recase_of_not_isAlpha halpha]

lemma isToken_recase {c : Char} (h : isToken c = true) (upper : Bool) :
    isToken (recase upper c) = true := by
  by_cases halpha : c.isAlpha
  · have hrecase : (recase upper c).isAlpha := by rwa [isAlpha_recase]
    simp [isToken, Char.isAlphanum, hrecase]
  · rwa [recase_of_not_isAlpha halpha]

lemma canonicalChars_idem (cs : List Char) :
    canonicalChars upper (canonicalChars upper cs) = canonicalChars upper cs := by
  induction cs generalizing upper with
  | nil => rfl
  | cons c cs ih =>
    have htwice : recase upper (recase upper c) = recase upper c := by
      cases upper <;> simp [recase]
    simp only [canonicalChars, recase_hyphen, htwice, ih]

lemma all_isToken_canonicalChars {cs : List Char} (h : cs.all isToken = true) (upper : Bool) :
    (canonicalChars upper cs).all isToken = true := by
  induction cs generalizing upper with
  | nil => rfl
  | cons c cs ih =>
    rw [all_cons, Bool.and_eq_true] at h
    rw [canonicalChars, all_cons, isToken_recase h.1, ih h.2]
    rfl

lemma canonical_idem : canonical (canonical s) = canonical s := by
  by_cases h : s.toList.all isToken = true
  · have hchars := all_isToken_canonicalChars h true
    simp only [canonical, if_pos h, String.toList_ofList, if_pos hchars, canonicalChars_idem]
  · simp only [canonical, if_neg h]

lemma lower_canonical : lower (canonical s) = lower s := by
  have hchars : ∀ upper cs, (canonicalChars upper cs).map Char.toLower = cs.map Char.toLower := by
    intro upper cs
    induction cs generalizing upper with
    | nil => rfl
    | cons c cs ih => cases upper <;> simp [canonicalChars, recase, ih]
  unfold canonical
  split
  · simp only [lower, String.toList_ofList, hchars]
  · rfl

/-! ## Reading -/

/-- The first line, without its end, and what follows it. -/
def cutLine : Option (List Char × Bytes) :=
  if 10 ∈ bytes then
    let line := bytes.takeWhile (· ≠ 10)
    let line := if line.getLast? = some 13 then line.dropLast else line
    some (line.map fun b => Char.ofNat b.toNat, (bytes.dropWhile (· ≠ 10)).tail)
  else none

def trim (cs : List Char) : String :=
  String.ofList ((cs.dropWhile (· == ' ')).reverse.dropWhile (· == ' ')).reverse

/-- The fields up to an empty line. -/
def readFields : (fuel : Nat) → Bytes → Option (List (String × String) × Bytes)
  | 0, _ => none
  | fuel + 1, bytes =>
    match cutLine bytes with
    | none => none
    | some ([], rest) => some ([], rest)
    | some (line, rest) =>
      let name := line.takeWhile (· ≠ ':')
      if name = [] ∨ ':' ∉ line ∨ name.all isToken = false then none
      else
        match readFields fuel rest with
        | none => none
        | some (fields, rest) =>
          some ((canonical (String.ofList name),
            trim (line.drop (name.length + 1))) :: fields, rest)

def number (base : Nat) (digits : List Char) : Nat :=
  digits.foldl (fun n c =>
    n * base + if c.isDigit then c.toNat - 48 else c.toLower.toNat - 87) 0

/-- What follows the last chunk. -/
def readChunked : (fuel : Nat) → Bytes → Option Bytes
  | 0, _ => none
  | fuel + 1, bytes =>
    match cutLine bytes with
    | none => none
    | some (line, rest) =>
      let size := number 16 line
      if size = 0 then some rest
      else if rest.length < size + 2 then none
      else readChunked fuel (rest.drop (size + 2))

/-- The values of the fields of a name. -/
def valuesOf (fields : List (String × String)) (name : String) : List String :=
  (fields.filter fun f => f.1 == name).map Prod.snd

/-- The names the parser takes out of the header. -/
def parsed : List String := ["Host", "Transfer-Encoding", "Trailer"]

def addField (h : Header) (f : String × String) : Header :=
  h.insert f.1 ((h.lookup f.1).getD [] ++ [f.2])

/-- The header map of the fields. -/
def headerFrom (fields : List (String × String)) : Header :=
  (fields.filter fun f => !parsed.contains f.1).foldl addField ∅

def requestFrom (method target : List Char) (fields : List (String × String)) : Request where
  method := String.ofList method
  urlHost := ""
  urlPath := String.ofList (target.takeWhile (· ≠ '?'))
  host := (valuesOf fields "Host").headD ""
  header := headerFrom fields
  trailer := if valuesOf fields "Transfer-Encoding" = ["chunked"] then
      (valuesOf fields "Trailer").flatMap fun names =>
        (names.toList.splitOn ',').map fun name => canonical (trim name)
    else []
  close := valuesOf fields "Connection" == ["close"]

/-- The request with its body, which starts at `rest`. -/
def arrivalFrom (total : Nat) (req : Request) (fields : List (String × String)) (rest : Bytes) :
    Arrival :=
  if valuesOf fields "Transfer-Encoding" = ["chunked"] then
    match (readChunked (rest.length + 1) rest).bind fun rest =>
      readFields (rest.length + 1) rest with
    | none => ⟨req, [], false, total⟩
    | some (sent, rest) => ⟨req, sent, true, total - rest.length⟩
  else
    let length := number 10 ((valuesOf fields "Content-Length").headD "").toList
    ⟨req, [], decide (length ≤ rest.length), total - (rest.length - length)⟩

/-- The request that stands first in the bytes. -/
def readRequest : Option Arrival :=
  match cutLine bytes with
  | none => none
  | some (line, rest) =>
    match line.splitOn ' ' with
    | [method, target, _] =>
      match readFields (rest.length + 1) rest with
      | none => none
      | some (fields, rest) =>
        some (arrivalFrom bytes.length (requestFrom method target fields) fields rest)
    | _ => none

def rawHost : String :=
  match (cutLine bytes).bind fun first => readFields (first.2.length + 1) first.2 with
  | none => ""
  | some (fields, _) => (valuesOf fields "Host").headD ""

/-! ## Writing -/

def headerFields (h : Header) : List (String × String) :=
  h.entries.flatMap fun e => e.2.map fun value => (e.1, value)

/-- The fields of a request as it is written. -/
def fields (r : Request) : List (String × String) :=
  ("Host", r.host) :: (if r.close then [("Connection", "close")] else []) ++
    (headerFields r.header).filter fun f => !managed.contains (canonical f.1)

/-- The trailer section, if one was declared. -/
def trailers (r : Request) (sent : List (String × String)) : List (String × String) :=
  if r.trailer = [] then [] else sent

/-- It encodes no Basic credential, and reads no claims. -/
def http : GoStd where
  canonical := canonical
  equalFold := fun s t => lower s == lower t
  toLower := fun s => String.ofList (lower s)
  trimSpace := fun s => trim s.toList
  splitHostPort := fun s =>
    if ':' ∈ s.toList then some (String.ofList (s.toList.takeWhile (· ≠ ':'))) else none
  base64 := id
  claims := fun _ => none
  readRequest := readRequest
  rawHost := rawHost
  fields := fields
  trailers := trailers
  writeHost := id
  validName := fun _ => true
  writeValue := id

/-! ## What is documented -/

variable {fs : List (String × String)}

lemma readFields_canonical {fuel : Nat} {bytes rest : Bytes}
    (h : readFields fuel bytes = some (fs, rest)) : ∀ f ∈ fs, canonical f.1 = f.1 := by
  induction fuel generalizing bytes rest fs with
  | zero => simp [readFields] at h
  | succ fuel ih =>
    unfold readFields at h
    split at h
    · simp at h
    · obtain ⟨rfl, -⟩ := Prod.mk.inj (Option.some.inj h)
      simp
    · dsimp only at h
      split at h
      · simp at h
      · split at h
        · simp at h
        · rename_i fs' rest' hrest
          obtain ⟨rfl, -⟩ := Prod.mk.inj (Option.some.inj h)
          intro f hf
          rcases mem_cons.mp hf with rfl | hf
          · exact canonical_idem _
          · exact ih hrest f hf

lemma headerFrom_canonical (h : ∀ f ∈ fs, canonical f.1 = f.1) :
    (headerFrom fs).Canonical http := by
  have hfold : ∀ (fs : List (String × String)) (acc : Header), (∀ f ∈ fs, canonical f.1 = f.1) →
      acc.Canonical http → (fs.foldl addField acc).Canonical http := by
    intro fs
    induction fs with
    | nil => exact fun _ _ hacc => hacc
    | cons f fs ih =>
      intro acc hfs hacc
      refine ih _ (fun f' hf' => hfs f' (mem_cons_of_mem _ hf')) fun name hname => ?_
      rcases (AList.mem_insert _).mp hname with rfl | hname
      · exact hfs f mem_cons_self
      · exact hacc name hname
  refine hfold _ _ (fun f hf => h f (mem_of_mem_filter hf)) fun name hname => ?_
  simp at hname

lemma arrivalFrom_req (total : Nat) (req : Request) (fs : List (String × String)) (rest : Bytes) :
    (arrivalFrom total req fs rest).req = req := by
  unfold arrivalFrom
  split
  · split <;> rfl
  · rfl

lemma readRequest_canonical {bytes : Bytes} {a : Arrival} (h : readRequest bytes = some a) :
    a.req.header.Canonical http := by
  unfold readRequest at h
  split at h
  · simp at h
  · split at h
    · split at h
      · simp at h
      · rename_i hfields
        obtain rfl := Option.some.inj h
        rw [arrivalFrom_req]
        exact headerFrom_canonical (readFields_canonical hfields)
    · simp at h

/-- Rows of a header, written field by field: those of one name. -/
lemma fieldValues_flatMap {rows : List (Sigma fun _ : String => List String)}
    (hkeys : rows.NodupKeys)
    (hrows : ∀ e ∈ rows, canonical e.1 = e.1) (name : String) :
    fieldValues http (rows.flatMap fun e => e.2.map fun value => (e.1, value)) name =
      (rows.dlookup (canonical name)).getD [] := by
  unfold fieldValues
  induction rows with
  | nil => rfl
  | cons e rows ih =>
    obtain ⟨key, values⟩ := e
    obtain ⟨hnew, hkeys'⟩ := nodupKeys_cons.mp hkeys
    have hkey : canonical key = key := hrows _ mem_cons_self
    have hrest := ih hkeys' fun e he => hrows e (mem_cons_of_mem _ he)
    rw [flatMap_cons, filter_append, map_append, hrest]
    by_cases heq : key = canonical name
    · subst heq
      have hall : (values.map fun value => (canonical name, value)).filter
          (fun f => http.canonical f.1 == http.canonical name) =
            values.map fun value => (canonical name, value) := by
        rw [filter_eq_self]
        intro f hf
        obtain ⟨value, -, rfl⟩ := mem_map.mp hf
        exact beq_iff_eq.mpr hkey
      rw [hall, dlookup_eq_none.mpr hnew, dlookup_cons_eq]
      simp [Function.comp_def]
    · have hnone : (values.map fun value => (key, value)).filter
          (fun f => http.canonical f.1 == http.canonical name) = [] := by
        rw [filter_eq_nil_iff]
        intro f hf
        obtain ⟨value, -, rfl⟩ := mem_map.mp hf
        rw [beq_iff_eq]
        exact fun h => heq (hkey ▸ h)
      rw [hnone, dlookup_cons_ne _ _ (Ne.symm heq)]
      rfl

lemma fieldValues_append (fs fs' : List (String × String)) (name : String) :
    fieldValues http (fs ++ fs') name = fieldValues http fs name ++ fieldValues http fs' name := by
  simp [fieldValues]

/-- Fields with other names have no values under a name. -/
lemma fieldValues_eq_nil {name : String} (h : ∀ f ∈ fs, canonical f.1 ≠ canonical name) :
    fieldValues http fs name = [] := by
  unfold fieldValues
  rw [map_eq_nil_iff, filter_eq_nil_iff]
  intro f hf heq
  exact h f hf (beq_iff_eq.mp heq)

/-- The lines the writer adds are those of managed names. -/
lemma fieldValues_fields {r : Request} {name : String} (hname : canonical name ∉ managed) :
    fieldValues http (fields r) name = fieldValues http (headerFields r.header) name := by
  unfold fields
  rw [cons_append, ← singleton_append, fieldValues_append, fieldValues_append]
  have hhost : fieldValues http [("Host", r.host)] name = [] := by
    refine fieldValues_eq_nil fun f hf heq => hname ?_
    rw [mem_singleton.mp hf] at heq
    rw [← heq]
    exact (by decide : canonical "Host" ∈ managed)
  have hclose : fieldValues http (if r.close then [("Connection", "close")] else []) name = [] := by
    refine fieldValues_eq_nil fun f hf heq => hname ?_
    split at hf
    · rw [mem_singleton.mp hf] at heq
      rw [← heq]
      decide
    · simp at hf
  rw [hhost, hclose, nil_append, nil_append]
  unfold fieldValues
  rw [filter_filter]
  refine congrArg _ (filter_congr fun f _ => ?_)
  by_cases heq : canonical f.1 = canonical name
  · simp [http, heq, hname]
  · simp [http, heq]

/-- The stand-in has all that is documented. -/
lemma http_documented : http.Documented where
  canonical_idem := canonical_idem
  equalFold_of_canonical := by
    intro s t h
    rw [show http.equalFold s t = (lower s == lower t) from rfl, beq_iff_eq, ← lower_canonical s,
      ← lower_canonical t]
    exact congrArg lower h
  header_canonical := fun _ _ => readRequest_canonical
  fields_host := by
    intro r
    have hrest : fieldValues http ((if r.close then [("Connection", "close")] else []) ++
        (headerFields r.header).filter fun f => !managed.contains (canonical f.1)) "Host" = [] := by
      refine fieldValues_eq_nil fun f hf => ?_
      rcases mem_append.mp hf with hf | hf
      · split at hf
        · rw [mem_singleton.mp hf]
          decide
        · simp at hf
      · intro heq
        have hnot := of_mem_filter hf
        rw [heq] at hnot
        exact absurd hnot (by decide)
    rw [show http.fields r = fields r from rfl, fields, cons_append, ← singleton_append,
      fieldValues_append, hrest, append_nil]
    simp [fieldValues, http]
  fields_header := by
    intro r name hcanonical hname
    rw [show http.fields r = fields r from rfl, fieldValues_fields hname]
    change _ = (r.header.values http name).map id
    rw [map_id]
    exact fieldValues_flatMap r.header.nodupKeys
      (fun e he => hcanonical e.1 (mem_keys_of_mem he)) name
  trailers_names := by
    intro r sent f hf
    right
    change f ∈ (if r.trailer = [] then [] else sent) at hf
    split at hf
    · simp at hf
    · exact mem_map_of_mem hf

end Homelab.EgressProxy.Plain
