import Homelab.Lib.Table

/-!
# Requests

What the egress proxy takes from Go's standard library, `GoStd`: the parser and the writer of
`net/http`, and the functions on texts that `swap.go` calls. They are parameters; all that is
assumed of them is in `GoStd.Documented`.

The fields of a chunked trailer section come in while the body is read, that is while the request is
written to the destination. `Arrival` has them beside the request that `http.ReadRequest` returns,
whose `trailer` holds only the names the guest declared.
-/

namespace Homelab.EgressProxy

open Homelab.Lib

abbrev Bytes := List UInt8

/-! ## Headers -/

/-- `http.Header`: the values of each name. -/
abbrev Header := Table String (List String)

/-- What is used of `http.Request`. -/
structure Request where
  method : String
  /-- `URL.Host` and `URL.Path` -/
  urlHost : String
  urlPath : String
  host : String
  header : Header
  /-- The keys of `Trailer`. -/
  trailer : List String
  close : Bool
  deriving DecidableEq

/-- A request on its way in. -/
structure Arrival where
  /-- What `http.ReadRequest` returns. -/
  req : Request
  /-- The fields of the trailer section, which the reader of the body merges into `Trailer`. -/
  sent : List (String × String)
  /-- The stream holds all of the body. -/
  whole : Bool
  /-- The bytes that request and body take up. -/
  used : Nat
  deriving DecidableEq

/-- A request as it reaches the destination: its fields, and those of its trailer section. -/
structure Forwarded where
  fields : List (String × String)
  trailer : List (String × String)
  deriving DecidableEq, Repr

/-- `any`, as `json.Unmarshal` fills it. -/
inductive Json where
  | object (members : List (String × Json))
  | string (s : String)
  | other

/-- The standard library, as far as the proxy calls it. -/
structure GoStd where
  /-- `textproto.CanonicalMIMEHeaderKey` -/
  canonical : String → String
  /-- `strings.EqualFold` -/
  equalFold : String → String → Bool
  /-- `strings.ToLower` -/
  toLower : String → String
  /-- `strings.TrimSpace` -/
  trimSpace : String → String
  /-- The host of `net.SplitHostPort`, if it returns no error. -/
  splitHostPort : String → Option String
  /-- `base64.StdEncoding.EncodeToString` -/
  base64 : String → String
  /-- `decodeJWTPart`, then `json.Unmarshal` into a map. -/
  claims : String → Option (List (String × Json))
  /-- `http.ReadRequest` on all bytes that are to come, and what its body then delivers. -/
  readRequest : Bytes → Option Arrival
  /-- `Get("Host")` of the MIME header after the first line; empty when there is none. -/
  rawHost : Bytes → String
  /-- The fields `Request.Write` begins with. -/
  fields : Request → List (String × String)
  /-- The trailer section `Request.Write` ends with, after the body has delivered its own. -/
  trailers : Request → List (String × String) → List (String × String)
  /-- The form `Request.Write` gives to a host. -/
  writeHost : String → String
  /-- `Request.Write` leaves out the fields of a name that is not valid. -/
  validName : String → Bool
  /-- The form `Request.Write` gives to a value: on one line, and trimmed. -/
  writeValue : String → String

/-! ## Header maps -/

namespace Header

variable (go : GoStd) (h : Header) (name : String)

/-- `Header.Values` -/
def values : List String := (h.lookup (go.canonical name)).getD []

/-- `Header.Del` -/
def del : Header := h.erase (go.canonical name)

/-- `Header.Set` -/
def set (value : String) : Header := h.insert (go.canonical name) [value]

/-- All names are in canonical form. -/
def Canonical : Prop := ∀ name ∈ h, go.canonical name = name

variable {go}

lemma values_del {h : Header} (name name' : String) : values go (del go h name) name' =
      if go.canonical name' = go.canonical name then [] else values go h name' := by
  unfold values del
  rw [Table.lookup_erase]
  split <;> rfl

lemma values_set {h : Header} (name value name' : String) : values go (set go h name value) name' =
      if go.canonical name' = go.canonical name then [value] else values go h name' := by
  unfold values set
  rw [Table.lookup_insert]
  split <;> rfl

lemma Canonical.del {h : Header} (hh : Canonical go h) (name : String) :
    Canonical go (del go h name) := by
  intro name' hmem
  exact hh name' (AList.mem_erase.mp hmem).2

lemma Canonical.set {h : Header} (hh : Canonical go h)
    (hidem : ∀ s, go.canonical (go.canonical s) = go.canonical s) (name value : String) :
    Canonical go (set go h name value) := by
  intro name' hmem
  rcases AList.mem_insert _ |>.mp hmem with rfl | hmem
  · exact hidem name
  · exact hh name' hmem

end Header

/-- The values of all fields of a name. -/
def fieldValues (go : GoStd) (fields : List (String × String)) (name : String) : List String :=
  (fields.filter fun f => go.canonical f.1 == go.canonical name).map Prod.snd

/-- The names `Request.Write` has lines of its own for. -/
def managed : List String :=
  ["Host", "User-Agent", "Content-Length", "Transfer-Encoding", "Trailer", "Connection"]

/-! ## What is documented -/

/-- What is assumed of the standard library. -/
structure GoStd.Documented (go : GoStd) : Prop where
  canonical_idem : ∀ s, go.canonical (go.canonical s) = go.canonical s
  /-- Names with one canonical form differ in case only. -/
  equalFold_of_canonical : ∀ s t, go.canonical s = go.canonical t → go.equalFold s t = true
  header_canonical : ∀ bytes a, go.readRequest bytes = some a → a.req.header.Canonical go
  fields_host : ∀ r, fieldValues go (go.fields r) "Host" = [go.writeHost r.host]
  /-- All other fields are those of the header. -/
  fields_header : ∀ r name, r.header.Canonical go → go.canonical name ∉ managed →
    fieldValues go (go.fields r) name =
      if go.validName (go.canonical name) then (r.header.values go name).map go.writeValue else []
  /-- A field of the trailer section has been declared, or the body has delivered it. -/
  trailers_names : ∀ r sent, ∀ f ∈ go.trailers r sent, f.1 ∈ r.trailer ∨ f.1 ∈ sent.map Prod.fst

end Homelab.EgressProxy
