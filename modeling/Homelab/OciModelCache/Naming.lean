import Mathlib.Data.Nat.Digits.Defs
import Homelab.Lib.DnsName

/-!
# Names

`naming.go` and `parser.go` of the model cache operator: how an `hf.co/` reference is read, and the
names of the `ModelCache` and of the copy job derived from it.

* A text is the list of its runes. All texts here come out of JSON, so they are valid UTF-8; `len`
  still counts bytes (`byteLen`), and so do the positions texts are cut at (`takeBytes`,
  `dropBytes`). The bytes of a rune that a cut divides decode to U+FFFD, one each.
* Unicode's case tables are a parameter (`Unicode`), fixed on ASCII only.
* SHA-256 is a parameter.
-/

namespace Homelab.OciModelCache

open Homelab.Lib.DnsName

/-! ## Texts -/

abbrev Text := List Char

variable (u : Unicode) (h : Digest) (repo file s : Text)

/-- `len(s)` -/
def byteLen : Nat := (s.map Char.utf8Size).sum

/-- `s[:n]` -/
def takeBytes : Nat → Text → Text
  | _, [] => []
  | n, c :: s =>
    if c.utf8Size ≤ n then c :: takeBytes (n - c.utf8Size) s else List.replicate n '\uFFFD'

/-- `s[n:]` -/
def dropBytes : Nat → Text → Text
  | _, [] => []
  | n, c :: s =>
    if n = 0 then c :: s
    else if c.utf8Size ≤ n then dropBytes (n - c.utf8Size) s
    else List.replicate (c.utf8Size - n) '\uFFFD' ++ s

/-- `strings.ReplaceAll(s, old, new)`, for one-rune texts. -/
def replaceAll (old new : Char) (s : Text) : Text :=
  s.map fun c => if c = old then new else c

/-- Go's case folding. -/
structure Unicode where
  /-- `unicode.ToLower` -/
  lower : Char → Char
  /-- `strings.EqualFold` -/
  equalFold : Text → Text → Bool
  lower_ascii : ∀ c : Char, c.val < 128 → lower c = c.toLower

/-- `strings.ToLower` -/
def Unicode.toLower : Text := s.map u.lower

/-- SHA-256. -/
structure Digest where
  sha256 : Text → BitVec 256

def digitChar (d : Nat) : Char := Char.ofNat (if d < 10 then 48 + d else 87 + d)

/-- Source: `naming.go` and `ociref.go`, `base36Hash` -/
def Digest.base36Hash : Text :=
  let n := (h.sha256 s).toNat
  if n = 0 then ['0'] else ((Nat.digits 36 n).map digitChar).reverse

/-- `fmt.Sprintf("%x", hash[:4])` -/
def Digest.hex4 : Text :=
  let n := (h.sha256 s).toNat >>> 224
  (List.range 8).map fun i => digitChar (n >>> (4 * (7 - i)) % 16)

/-! ## `naming.go` -/

/-- What `sanitizeDNS` writes for one rune. -/
def keptRune (c : Char) : Option Char :=
  if alnum c || c == '.' then some c
  else if c == '-' || c == '_' || c == '/' then some '-'
  else none

/-- `strings.Trim(s, "-.")` -/
def trim : Text := (s.dropWhile separator).rdropWhile separator

def sanitizeDNS : Text := trim (s.filterMap keptRune)

/-- The text `ModelCacheName` shortens: `full` in the source. -/
def slugText : Text :=
  let name := u.toLower (replaceAll '/' '-' repo)
  if file ≠ [] then name ++ '-' :: u.toLower (replaceAll '_' '-' file) else name

/-- `fmt.Sprintf("%s:%s", repo, file)` -/
def hashedText : Text := repo ++ ':' :: file

/-- The name of the ModelCache for a reference. -/
def modelCacheName : Text :=
  let full := slugText u repo file
  if byteLen full ≤ 63 then sanitizeDNS full
  else
    let suffix := h.hex4 (hashedText repo file)
    let maxPrefix := 63 - byteLen suffix - 1
    sanitizeDNS (takeBytes maxPrefix full) ++ '-' :: suffix

/-- The name of the copy job. -/
def jobName (resolvedRef : Text) : Text :=
  let tag := if ':' ∈ resolvedRef then resolvedRef.rtakeWhile (· ≠ ':') else []
  let name := sanitizeDNS (u.toLower tag)
  if name = [] ∨ byteLen name > 63 then h.base36Hash resolvedRef else name

/-! ## `parser.go` -/

/-- A parsed `hf.co/…` image. -/
structure HfRef where
  repo : Text
  file : Text
  deriving DecidableEq, Repr

/-- Source: `parser.go`, `Parse` -/
def parse (volumeName : Text) : Option HfRef :=
  match volumeName.dropPrefix? "hf.co/".toList with
  | none => none
  | some rest =>
    if rest = [] then none
    else
      let repo := rest.takeWhile (· ≠ ':')
      let file := (rest.dropWhile (· ≠ ':')).drop 1
      if '/' ∈ repo then some ⟨repo, file⟩ else none

end Homelab.OciModelCache
