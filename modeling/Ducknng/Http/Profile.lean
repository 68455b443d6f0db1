import Ducknng.Http.HeaderList
import Ducknng.Service.Authorizer
import Ducknng.Service.Subjects
import Mathlib.Data.List.DropRight

namespace Ducknng

/-!
# HTTP profiles

A profile keeps a secret header for requests within a scope: a scheme, a host, a port, a path
prefix, a method, the subjects that may use it. SQL names the profile; the runtime checks the
request against the scope and adds the header to the caller's own.

Texts are the bytes before the terminator, and `[]` stands for `NULL` wherever the source
treats the two alike.

* `HttpProfile` — a stored profile; the checks of its registration are fields.
* `upsertHttpProfile`, `dropHttpProfile` — the registry.
* `resolveHttpProfileHeaders` — from a request to the headers that are sent.
-/

/-! ### Texts -/

/-- `"http"`. -/
def httpScheme : List UInt8 := [0x68, 0x74, 0x74, 0x70]

/-- `"https"`. -/
def httpsScheme : List UInt8 := [0x68, 0x74, 0x74, 0x70, 0x73]

/-- `"*"`. -/
def anyMethod : List UInt8 := [0x2a]

variable (text : List UInt8)

/-- A text without the white space at its ends. -/
def trimWs : List UInt8 := (jsonSkipWs text).rdropWhile isJsonWs

/-- `ducknng_http_profile_dup_trim_lower`; `none` also when nothing is left. -/
def dupTrimLower (copies : Bool) (text : List UInt8) : Option (List UInt8) :=
  if trimWs text = [] ∨ copies = false then none else some ((trimWs text).map asciiToLower)

/-- `ducknng_http_profile_dup_trim_upper`. -/
def dupTrimUpper (copies : Bool) (text : List UInt8) : Option (List UInt8) :=
  if trimWs text = [] ∨ copies = false then none else some ((trimWs text).map upperAscii)

/-- `ducknng_http_profile_string_clean`. -/
def httpProfileStringClean : Bool := text ≠ [] && text.all fun c => !isControl c

/-- `ducknng_http_profile_method_valid`. -/
def httpProfileMethodValid (method : List UInt8) : Bool := method = anyMethod || isToken method

/-- `ducknng_http_profile_header_value_valid`. -/
def httpProfileHeaderValueValid (value : List UInt8) : Bool :=
  value ≠ [] && httpHeaderValueIsValid value

/-- `ducknng_http_profile_path_in_scope`. -/
def httpProfilePathInScope (path pathPrefix : List UInt8) : Bool :=
  if pathPrefix.head? ≠ some slash then false
  else if pathPrefix = [slash] then true
  else prefixMatches pathPrefix path

/-! ### Stored profiles -/

/-- `ducknng_http_profile`, with what its registration has checked. -/
structure HttpProfile where
  profileId : List UInt8
  scheme : List UInt8
  host : List UInt8
  /-- `port`, where `has_port` is set. -/
  port : Option Nat
  pathPrefix : List UInt8
  method : List UInt8
  tlsRequired : Bool
  authHeaderName : List UInt8
  authHeaderValue : List UInt8
  allowSubjectsJson : Option (List UInt8)
  version : Nat := 0
  createdMs : Nat := 0
  updatedMs : Nat := 0
  expiresAtMs : Nat
  scheme_ok : scheme = httpScheme ∨ scheme = httpsScheme
  port_ok : ∀ p, port = some p → 1 ≤ p ∧ p ≤ 65535
  prefix_ok : pathPrefix.head? = some slash
  method_ok : httpProfileMethodValid method = true
  tls_ok : tlsRequired = true → scheme = httpsScheme
  name_ok : isToken authHeaderName = true
  value_ok : httpProfileHeaderValueValid authHeaderValue = true
  subjects_ok : ∀ json, allowSubjectsJson = some json →
    ∃ values, JsonStringArray json values ∧ values ≠ []

/-- The arguments of a registration. -/
structure HttpProfileArgs where
  profileId : List UInt8
  scheme : List UInt8
  host : List UInt8
  port : Int
  hasPort : Bool
  pathPrefix : List UInt8
  method : List UInt8
  tlsRequired : Bool
  authHeaderName : List UInt8
  authHeaderValue : List UInt8
  expiresAtMs : Nat
  allowSubjectsJson : List UInt8

/-- A check: it goes on with the condition, or refuses with a message. -/
def demand (ok : Bool) (message : String) : Except (Option String) (PLift (ok = true)) :=
  if h : ok = true then .ok ⟨h⟩ else .error (some message)

/-- A value that may be missing. -/
def present {α : Type} (value : Option α) (message : String) :
    Except (Option String) { a : α // value = some a } :=
  match value with
  | some a => .ok ⟨a, rfl⟩
  | none => .error (some message)

theorem subjects_none (json : List UInt8) (h : none = some json) :
    ∃ values, JsonStringArray json values ∧ values ≠ [] := by
  cases h

/-- The check of `allow_subjects_json`: the list that is kept, if there is one. -/
def checkAllowSubjects (room : Nat → Bool) (json : List UInt8) :
    Except (Option String) { kept : Option (List UInt8) // ∀ text, kept = some text →
      ∃ values, JsonStringArray text values ∧ values ≠ [] } :=
  if json = [] then .ok ⟨none, subjects_none⟩
  else
    -- no text is wanted here, only the number of entries
    match h : jsonStringArrayContains room json [] with
    | .error _ =>
      .error (some "ducknng: HTTP profile allow_subjects_json must be a JSON array of strings")
    | .ok (_, count) =>
      if hcount : count = 0 then
        .error (some
          ("ducknng: HTTP profile allow_subjects_json must list at least one subject; " ++
          "pass NULL for an unrestricted profile"))
      else .ok ⟨some json, fun text htext => by
        obtain ⟨values, harray, hlength, -⟩ := jsonStringArrayContains_sound h
        obtain rfl := Option.some.inj htext
        exact ⟨values, harray, fun hnil => hcount (by rw [hlength, hnil]; rfl)⟩⟩

/-- The checks of `ducknng_runtime_upsert_http_profile` and the profile they build. `room` is
    the memory of the subject check and `copies` that of the copies. -/
def checkHttpProfile (room : Nat → Bool) (copies : Bool) (args : HttpProfileArgs) :
    Except (Option String) HttpProfile := do
  let ⟨subjects, subjects_ok⟩ ← checkAllowSubjects room args.allowSubjectsJson
  let _ ← demand (httpProfileStringClean args.profileId)
    "ducknng: HTTP profile id must be a non-empty string without control characters"
  let _ ← demand (httpProfileStringClean args.host)
    "ducknng: HTTP profile host must be a non-empty host name"
  let ⟨hpath⟩ ← demand (args.pathPrefix.head? = some slash)
    "ducknng: HTTP profile path_prefix must start with '/'"
  let ⟨hname⟩ ← demand (isToken args.authHeaderName)
    "ducknng: HTTP profile auth header name must be an HTTP token"
  let ⟨hvalue⟩ ← demand (httpProfileHeaderValueValid args.authHeaderValue)
    ("ducknng: HTTP profile auth header value must be non-empty and must not contain " ++
      "control characters")
  let ⟨hport⟩ ← demand (!args.hasPort || (0 < args.port && args.port ≤ 65535))
    "ducknng: HTTP profile port must be between 1 and 65535"
  let ⟨scheme, _⟩ ← present (dupTrimLower copies args.scheme)
    "ducknng: out of memory copying HTTP profile"
  let ⟨host, _⟩ ← present (dupTrimLower copies args.host)
    "ducknng: out of memory copying HTTP profile"
  let ⟨method, _⟩ ← present
    (dupTrimUpper copies (if args.method = [] then anyMethod else args.method))
    "ducknng: out of memory copying HTTP profile"
  let ⟨hscheme⟩ ← demand (scheme = httpScheme || scheme = httpsScheme)
    "ducknng: HTTP profile scheme must be http or https"
  let ⟨htls⟩ ← demand (!args.tlsRequired || scheme = httpsScheme)
    "ducknng: HTTP profile tls_required requires scheme = 'https'"
  let ⟨hmethod⟩ ← demand (httpProfileMethodValid method)
    "ducknng: HTTP profile method must be an HTTP token or '*'"
  return {
    profileId := args.profileId, scheme, host
    port := if args.hasPort then some args.port.toNat else none
    pathPrefix := args.pathPrefix, method, tlsRequired := args.tlsRequired
    authHeaderName := args.authHeaderName, authHeaderValue := args.authHeaderValue
    allowSubjectsJson := subjects, expiresAtMs := args.expiresAtMs
    scheme_ok := by simpa using hscheme
    port_ok := by
      intro p hp
      split at hp
      · next hset =>
        obtain rfl := Option.some.inj hp
        simp only [hset, Bool.not_true, Bool.false_or, Bool.and_eq_true, decide_eq_true_eq] at hport
        omega
      · cases hp
    prefix_ok := of_decide_eq_true hpath
    method_ok := hmethod
    tls_ok := by
      intro hset
      simpa [hset] using htls
    name_ok := hname
    value_ok := hvalue
    subjects_ok }

/-- The profiles of a runtime and `next_http_profile_version`. -/
structure HttpProfiles where
  profiles : List HttpProfile := []
  nextVersion : Nat := 1

/-- The next version; zero is passed over when the counter wraps. -/
def HttpProfiles.takeVersion (reg : HttpProfiles) : Nat × Nat :=
  let next := (reg.nextVersion + 1) % 2 ^ 64
  if reg.nextVersion = 0 then (next, (next + 1) % 2 ^ 64) else (reg.nextVersion, next)

/-- The loop that puts a profile in the place of the one with its id. -/
def replaceProfile (next : HttpProfile) : List HttpProfile → Option (List HttpProfile)
  | [] => none
  | p :: ps =>
    if p.profileId = next.profileId then some ({ next with createdMs := p.createdMs } :: ps)
    else (replaceProfile next ps).map fun ps => p :: ps

/-- `ducknng_runtime_upsert_http_profile`. `grows` says whether the list has or gets room for
    one more profile. -/
def upsertHttpProfile (room : Nat → Bool) (copies grows : Bool) (now : Nat)
    (reg : HttpProfiles) (args : HttpProfileArgs) : Except (Option String) HttpProfiles := do
  let next ← checkHttpProfile room copies args
  let (version, nextVersion) := reg.takeVersion
  let next := { next with version, createdMs := now, updatedMs := now }
  match replaceProfile next reg.profiles with
  | some profiles => return { profiles, nextVersion }
  | none =>
    if grows then return { profiles := reg.profiles ++ [next], nextVersion }
    else throw (some "ducknng: out of memory growing HTTP profile registry")

/-- `ducknng_runtime_drop_http_profile`. -/
def dropHttpProfile (reg : HttpProfiles) (profileId : List UInt8) : HttpProfiles :=
  { reg with profiles := reg.profiles.eraseP fun p => p.profileId = profileId }

/-! ### URLs -/

/-- `ducknng_transport_url`. -/
structure TransportUrl where
  family : TransportFamily
  scheme : TransportScheme
  usesTls : Bool
  deriving DecidableEq

/-- The schemes in the order of the source. -/
def transportSchemes : List (List UInt8 × TransportUrl) :=
  [([0x69, 0x6e, 0x70, 0x72, 0x6f, 0x63], ⟨.nng, .inproc, false⟩),
    ([0x69, 0x70, 0x63], ⟨.nng, .ipc, false⟩),
    ([0x74, 0x63, 0x70], ⟨.nng, .tcp, false⟩),
    ([0x74, 0x6c, 0x73, 0x2b, 0x74, 0x63, 0x70], ⟨.nng, .tlsTcp, true⟩),
    ([0x77, 0x73], ⟨.nng, .ws, false⟩),
    ([0x77, 0x73, 0x73], ⟨.nng, .wss, true⟩),
    (httpScheme, ⟨.http, .http, false⟩),
    (httpsScheme, ⟨.http, .https, true⟩)]

/-- What stands before the first `"://"`. -/
def schemeOf : List UInt8 → Option (List UInt8)
  | [] => none
  | c :: text =>
    if [0x3a, slash, slash].isPrefixOf (c :: text) then some []
    else (schemeOf text).map fun scheme => c :: scheme

/-- `ducknng_transport_url_parse`. -/
def transportUrlParse (url : List UInt8) : Except (Option String) TransportUrl :=
  if url = [] then .error (some "ducknng: transport URL is required")
  else match schemeOf url with
    | none | some [] =>
      .error (some
        "ducknng: transport URL must include a scheme such as ipc:// or https://")
    | some scheme =>
      match transportSchemes.find? fun s => s.1 = scheme.map asciiToLower with
      | none => .error (some "ducknng: unsupported transport URL scheme")
      | some s => .ok s.2

/-- The parts of an `nng_url`. -/
structure NngUrl where
  scheme : Option (List UInt8)
  hostname : Option (List UInt8)
  port : List UInt8
  path : List UInt8
  deriving DecidableEq

/-- A decimal digit. -/
def isDigit (c : UInt8) : Bool := 0x30 ≤ c && c ≤ 0x39

/-- The sign of a number and what stands behind it. -/
def takeSign : List UInt8 → Bool × List UInt8
  | [] => (false, [])
  | c :: text =>
    if c = 0x2d then (true, text) else if c = 0x2b then (false, text) else (false, c :: text)

/-- `strtoul` to the base ten over a 64-bit `unsigned long`: the number and what stands behind
    it, `none` when there is no number. -/
def strtoul : Option (Nat × List UInt8) :=
  let (negative, text) := takeSign (text.dropWhile isSpace)
  let digits := text.takeWhile isDigit
  let n := digits.foldl (fun n d => n * 10 + (d.toNat - 0x30)) 0
  if digits = [] then none
  else some (if n ≥ 2 ^ 64 then 2 ^ 64 - 1 else if negative then (2 ^ 64 - n) % 2 ^ 64 else n,
    text.dropWhile isDigit)

/-- `ducknng_http_profile_parse_port`. -/
def httpProfileParsePort (dflt : Nat) : Option Nat :=
  if text = [] then some dflt
  else match strtoul text with
    | none => none
    | some (value, rest) => if rest ≠ [] ∨ value = 0 ∨ value > 65535 then none else some value

/-! ### The header of a profile -/

/-- What `ducknng_http_profile_json_escape_dup` writes for a byte. -/
def profileEscapeByte (c : UInt8) : List UInt8 :=
  if c = quote then [backslash, quote]
  else if c = backslash then [backslash, backslash]
  else if c = 0x0a then [backslash, 0x6e]
  else if c = 0x0d then [backslash, 0x72]
  else if c = 0x09 then [backslash, 0x74]
  else if c < 0x20 then
    [backslash, 0x75, 0x30, 0x30, hexDigit (c / 16), hexDigit (c % 16)]
  else [c]

/-- `ducknng_http_profile_json_escape_dup`. -/
def jsonEscapeDup : List UInt8 := text.flatMap profileEscapeByte

/-- A text between quotes. -/
def quoted : List UInt8 := quote :: jsonEscapeDup text ++ [quote]

/-- `ducknng_http_profile_auth_header_object`. -/
def authHeaderObject (name value : List UInt8) : List UInt8 :=
  0x7b :: (quoted nameField ++ 0x3a :: (quoted name ++ 0x2c ::
    (quoted valueField ++ 0x3a :: (quoted value ++ [0x7d]))))

/-- `ducknng_http_profile_headers_empty_array`, on the text before its last bracket. -/
def headersEmptyArray : Bool :=
  match jsonSkipWs text with
  | [] => false
  | c :: p => c = 0x5b && jsonSkipWs p = []

/-- The memory of `ducknng_http_profile_merge_headers`: for the object, and for the result. -/
structure MergeMemory where
  builds : Bool := true
  merges : Bool := true

/-- The text of a merged list, if there is memory for it. -/
def mergedText (mem : MergeMemory) (text : List UInt8) : Except (Option String) (List UInt8) :=
  if mem.merges then .ok text
  else .error (some "ducknng: out of memory merging HTTP profile headers")

/-- `ducknng_http_profile_merge_headers`. -/
def mergeHeaders (mem : MergeMemory) (headersJson name value : List UInt8) :
    Except (Option String) (List UInt8) :=
  let auth := authHeaderObject name value
  let trimmed := headersJson.rdropWhile isJsonWs
  if mem.builds = false then
    .error (some "ducknng: out of memory building HTTP profile headers")
  else if headersJson = [] then mergedText mem (0x5b :: (auth ++ [0x5d]))
  else if trimmed.getLast? ≠ some 0x5d then .error (some "ducknng: invalid headers_json")
  else if headersEmptyArray trimmed.dropLast then mergedText mem (0x5b :: (auth ++ [0x5d]))
  else mergedText mem (trimmed.dropLast ++ 0x2c :: (auth ++ [0x5d]))

/-! ### Resolution -/

/-- Who a request runs for: the connection of the SQL, if it is known, the subjects bound to
    connections and the subject of the thread. -/
structure SubjectContext where
  connectionId : Option Nat
  bindings : List SubjectBinding
  thread : Option CStr

/-- The subject that a resolution checks. `copies` says whether a bound subject can be
    copied. -/
def SubjectContext.subject (ctx : SubjectContext) (copies : Bool) : Option CStr :=
  -- the connection comes first; its subject governs the SQL of a session
  match CStr.present (ctx.connectionId.bind fun id =>
    subjectForConnection id copies ctx.bindings) with
  | some subject => some subject
  | none => CStr.present ctx.thread

/-- The subject check of `ducknng_runtime_resolve_http_profile_headers`. -/
def HttpProfile.admits (room : Nat → Bool) (profile : HttpProfile) (subject : Option CStr) : Bool :=
  match profile.allowSubjectsJson with
  | none | some [] => true
  | some json =>
    match subject with
    | none => false
    | some subject =>
      match jsonStringArrayContains room json subject.bytes with
      | .ok (found, _) => found
      | .error _ => false

/-- What a resolution asks for: the time, `nng_url_parse` and memory. -/
structure ResolveWorld where
  nowMs : Nat
  parseUrl : List UInt8 → Option NngUrl
  room : Nat → Bool := fun _ => true
  copiesHeaders : Bool := true
  copiesProfile : Bool := true
  copiesSubject : Bool := true
  copiesMethod : Bool := true
  copiesValue : Bool := true
  merge : MergeMemory := {}

/-- The collision check: whether the caller names the header of the profile. -/
def collides (world : ResolveWorld) (profile : HttpProfile) (headersJson : List UInt8) :
    Except (Option String) Bool :=
  if headersJson = [] then .ok false
  else (httpHeadersJsonGetHeader world.room world.copiesValue headersJson profile.authHeaderName
    false).map Option.isSome

/-- `"GET"`, the method when the caller names none. -/
def defaultMethod : List UInt8 := [0x47, 0x45, 0x54]

/-- The port of a URL. -/
def urlPort (transport : TransportUrl) (url : NngUrl) : Option Nat :=
  httpProfileParsePort url.port (if transport.usesTls then 443 else 80)

/-- The path of a URL. -/
def urlPath (url : NngUrl) : List UInt8 := if url.path = [] then [slash] else url.path

/-- The resolution with a profile: `ducknng_runtime_resolve_http_profile_headers` from the copy
    of the profile on. -/
def HttpProfile.resolve (world : ResolveWorld) (profile : HttpProfile) (subjects : SubjectContext)
    (url method headersJson : List UInt8) : Except (Option String) (List UInt8) := do
  let _ ← demand (profile.expiresAtMs = 0 || world.nowMs ≤ profile.expiresAtMs)
    "ducknng: HTTP profile expired"
  let _ ← demand (profile.admits world.room (subjects.subject world.copiesSubject))
    "ducknng: HTTP profile admission rejected request subject"
  let transport ← transportUrlParse url
  let _ ← demand (transport.family = .http) "ducknng: http:// or https:// URL is required"
  let _ ← demand (!profile.tlsRequired || transport.usesTls)
    "ducknng: HTTP profile requires a TLS URL"
  let ⟨parsed, _⟩ ← present (world.parseUrl url)
    "ducknng: failed to parse HTTP URL for profile scope"
  let _ ← demand (parsed.scheme.any fun scheme => asciiIeq scheme profile.scheme)
    "ducknng: HTTP profile scope rejected URL scheme"
  let _ ← demand (parsed.hostname.any fun hostname => asciiIeq hostname profile.host)
    "ducknng: HTTP profile scope rejected URL host"
  let ⟨gotPort, _⟩ ← present (urlPort transport parsed)
    "ducknng: HTTP profile scope rejected invalid URL port"
  let _ ← demand (profile.port.all fun wantPort => gotPort = wantPort)
    "ducknng: HTTP profile scope rejected URL port"
  let _ ← demand (httpProfilePathInScope (urlPath parsed) profile.pathPrefix)
    "ducknng: HTTP profile scope rejected URL path"
  let ⟨reqMethod, _⟩ ← present
    (dupTrimUpper world.copiesMethod (if method = [] then defaultMethod else method))
    "ducknng: out of memory copying HTTP method"
  let _ ← demand (isToken reqMethod) "ducknng: HTTP method must be an HTTP token"
  let _ ← demand (profile.method = anyMethod || profile.method = reqMethod)
    "ducknng: HTTP profile scope rejected HTTP method"
  let found ← collides world profile headersJson
  let _ ← demand (!found) "ducknng: caller header collides with HTTP profile auth header"
  mergeHeaders world.merge headersJson profile.authHeaderName profile.authHeaderValue

end Ducknng
