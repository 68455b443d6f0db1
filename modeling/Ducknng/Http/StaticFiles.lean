import Ducknng.Http.Routes

namespace Ducknng

open List

/-!
# Static files

A prefix route with a directory answers a request with the file whose path is the directory,
a slash and what the request path has behind the path of the route. Paths are byte texts;
whether `'\'` separates segments depends on the system that opens them, so the results hold
for both readings.

* `pathHasTraversal_of_mem` — the scan sees every `..` segment.
* `serveStaticFile_inside` — what is opened lies in the directory.
-/

/-! ### The file server -/

/-- `'/'` and `'\'`. -/
def isPathSeparator (c : UInt8) : Bool := c = slash || c = 0x5c

/-- `".."`. -/
def dotDot : List UInt8 := [0x2e, 0x2e]

/-- `".."` at the start of a text, followed by a separator or its end. -/
def dotDotAt (p : List UInt8) : Bool := dotDot.isPrefixOf p && (p.drop 2).head?.all isPathSeparator

/-- `ducknng_path_has_traversal`: the test at the start of every segment. -/
def pathHasTraversal (p : List UInt8) : Bool :=
  if p = [] then false
  else if dotDotAt p then true
  else pathHasTraversal ((p.dropWhile fun c => !isPathSeparator c).drop 1)
termination_by p.length
decreasing_by
  have hdrop := (dropWhile_suffix (l := p) fun c => !isPathSeparator c).length_le
  have hpos := length_pos_of_ne_nil ‹p ≠ []›
  rw [length_drop]
  omega

/-- The types by extension. -/
def staticMimes : List (String × String) :=
  [("html", "text/html"), ("htm", "text/html"), ("css", "text/css"),
    ("js", "application/javascript"), ("json", "application/json"), ("txt", "text/plain"),
    ("png", "image/png"), ("jpg", "image/jpeg"), ("jpeg", "image/jpeg"), ("gif", "image/gif"),
    ("svg", "image/svg+xml"), ("ico", "image/x-icon"), ("wasm", "application/wasm"),
    ("xml", "application/xml")]

/-- `ducknng_static_mime_for_ext`, for what stands behind the last dot of a path. -/
def staticMimeForExt (path : List UInt8) : String :=
  if path.contains 0x2e then
    let ext := (path.reverse.takeWhile (· != 0x2e)).reverse
    ((staticMimes.find? fun m => m.1.toUTF8.data.toList = ext).map Prod.snd).getD
      "application/octet-stream"
  else "application/octet-stream"

/-- A file that has been opened: its size, unless `ftell` fails, and what `fread` gives. -/
structure StaticFile where
  size : Option Nat
  content : List UInt8

/-- The outcomes of the two allocations and of `fopen`. -/
structure StaticWorld where
  allocPath : Bool
  allocBody : Bool
  fopen : List UInt8 → Option StaticFile

/-- What is set of `ducknng_http_route_reply`. -/
inductive StaticReply
  | text (status : Nat) (bodyText : String)
  | file (mime : String) (body : List UInt8)

/-- What the file server takes for the path inside the directory. -/
def staticRelative (routePrefix requestPath : List UInt8) : List UInt8 :=
  let rest := if routePrefix.isPrefixOf requestPath then requestPath.drop routePrefix.length
    else requestPath
  let rel := rest.dropWhile isPathSeparator
  if rel = [] then "index.html".toUTF8.data.toList else rel

/-- `ducknng_serve_static_file`: the path of the file it has opened, and its answer. -/
def serveStaticFile (world : StaticWorld) (staticDir routePrefix requestPath : CStr) :
    Option (List UInt8) × Except String StaticReply :=
  let rel := staticRelative routePrefix.bytes requestPath.bytes
  if pathHasTraversal rel then (none, .ok (.text 403 "ducknng: path traversal not permitted"))
  else if !world.allocPath then (none, .error "ducknng: out of memory building static path")
  else
    let fullPath := staticDir.bytes ++ slash :: rel
    match world.fopen fullPath with
    | none => (none, .ok (.text 404 "Not Found"))
    | some file =>
      if file.size = none then
        (some fullPath, .ok (.text 500 "ducknng: failed to stat static file"))
      else if !world.allocBody then
        (some fullPath, .error "ducknng: out of memory reading static file")
      else (some fullPath, .ok (.file (staticMimeForExt fullPath) file.content))

/-! ### Segments -/

section
variable {α : Type} {f g : α → Bool} {s : List α}

/-- Induction over the segments of a text: one without separator, or a segment, a separator
    and what is behind it. -/
theorem segment_induction {motive : List α → Prop}
    (last : ∀ p, (∀ c ∈ p, f c = false) → motive p)
    (step : ∀ seg c rest, (∀ x ∈ seg, f x = false) → f c = true → motive rest →
      motive (seg ++ c :: rest)) (p : List α) : motive p := by
  -- with the bytes of the first segment that are already behind
  suffices h : ∀ seg, (∀ x ∈ seg, f x = false) → motive (seg ++ p) from h [] (by simp)
  induction p with
  | nil =>
    intro seg hseg
    rw [append_nil]
    exact last seg hseg
  | cons c p ih =>
    intro seg hseg
    cases hc : f c with
    | true => exact step seg c p hseg hc (ih [] (by simp))
    | false =>
      rw [append_cons]
      exact ih (seg ++ [c]) (forall_mem_append.2 ⟨hseg, forall_mem_singleton.2 hc⟩)

/-- A segment stays one where more bytes separate, if it has none of them. -/
theorem mem_splitOnP_mono (hfg : ∀ c, f c = true → g c = true) (hs : ∀ c ∈ s, g c = false)
    {p : List α} (hmem : s ∈ p.splitOnP f) : s ∈ p.splitOnP g := by
  have hself : s ∈ s.splitOnP g := by
    rw [splitOnP_eq_singleton hs]
    exact mem_singleton_self s
  induction p using segment_induction (f := f) with
  | last p hfree =>
    rw [splitOnP_eq_singleton hfree, mem_singleton] at hmem
    exact hmem ▸ hself
  | step seg c rest hfree hc ih =>
    rw [splitOnP_append_cons_of_forall_mem hfree c hc, mem_cons] at hmem
    rw [splitOnP_append_cons _ _ (hfg c hc), mem_append]
    rcases hmem with rfl | hmem
    · exact .inl hself
    · exact .inr (ih hmem)

end

/-- The scan sees every `..` segment. -/
theorem pathHasTraversal_of_mem {p : List UInt8} (hmem : dotDot ∈ p.splitOnP isPathSeparator) :
    pathHasTraversal p = true := by
  induction p using segment_induction (f := isPathSeparator) with
  | last p hfree =>
    rw [splitOnP_eq_singleton hfree, mem_singleton] at hmem
    rw [← hmem, pathHasTraversal, if_neg (by decide), if_pos (by decide)]
  | step seg c rest hfree hc ih =>
    rw [splitOnP_append_cons_of_forall_mem hfree c hc, mem_cons] at hmem
    rw [pathHasTraversal, if_neg (by simp)]
    rcases hmem with rfl | hmem
    · rw [if_pos (by simpa [dotDotAt, dotDot] using hc)]
    · have hdrop : (seg ++ c :: rest).dropWhile (fun c => !isPathSeparator c) = c :: rest := by
        rw [dropWhile_append_of_pos fun x hx => by simpa using hfree x hx,
          dropWhile_cons_of_neg (by simpa using hc)]
      rw [hdrop]
      split
      · rfl
      · exact ih hmem

/-! ### Resolution -/

/-- One segment further: `..` goes up, unless there is nothing to leave by name. -/
def resolveSegment (at_ : List (List UInt8)) (seg : List UInt8) : List (List UInt8) :=
  if seg = [] ∨ seg = [0x2e] then at_
  else if seg = dotDot ∧ at_.getLast?.any (· != dotDot) then at_.dropLast
  else at_ ++ [seg]

/-- The directory or file that segments lead to. -/
def resolve (segs : List (List UInt8)) : List (List UInt8) := segs.foldl resolveSegment []

/-- Without `..` the way only goes down. -/
theorem resolve_append {segs rest : List (List UInt8)} (h : dotDot ∉ rest) :
    resolve segs <+: resolve (segs ++ rest) := by
  rw [resolve, resolve, foldl_append]
  generalize segs.foldl resolveSegment [] = at_
  induction rest generalizing at_ with
  | nil => exact prefix_rfl
  | cons seg rest ih =>
    have hseg : seg ≠ dotDot := fun hseg => h (hseg ▸ mem_cons_self)
    refine IsPrefix.trans ?_ (ih (fun hrest => h (mem_cons_of_mem _ hrest)) _)
    unfold resolveSegment
    split
    · exact prefix_rfl
    · rw [if_neg fun hup => hseg hup.1]
      exact prefix_append at_ [seg]

/-- **Static files stay in their directory.** Whatever the route and the request, a file that is
    opened has a path that is the directory and segments among which there is no `..`, so that
    the directory resolves to an ancestor of every part of the path behind it. -/
theorem serveStaticFile_inside (world : StaticWorld) (route : HttpRoute) (dir requestPath : CStr)
    (opened : List UInt8) (reply : Except String StaticReply)
    (h : serveStaticFile world dir route.path requestPath = (some opened, reply))
    (sep : UInt8 → Bool) (hslash : sep slash = true)
    (hsep : ∀ c, sep c = true → isPathSeparator c = true) :
    ∃ rest, opened = dir.bytes ++ slash :: rest ∧
      opened.splitOnP sep = dir.bytes.splitOnP sep ++ rest.splitOnP sep ∧
      dotDot ∉ rest.splitOnP sep ∧
      ∀ part, part <+: rest.splitOnP sep →
        resolve (dir.bytes.splitOnP sep) <+: resolve (dir.bytes.splitOnP sep ++ part) := by
  have hopened : pathHasTraversal (staticRelative route.path.bytes requestPath.bytes) = false ∧
      opened = dir.bytes ++ slash :: staticRelative route.path.bytes requestPath.bytes := by
    unfold serveStaticFile at h
    grind
  obtain ⟨hscan, rfl⟩ := hopened
  have hnone : dotDot ∉ (staticRelative route.path.bytes requestPath.bytes).splitOnP sep := by
    intro hmem
    have hfree : ∀ c ∈ dotDot, isPathSeparator c = false := by simp [dotDot, isPathSeparator, slash]
    rw [pathHasTraversal_of_mem (mem_splitOnP_mono hsep hfree hmem)] at hscan
    cases hscan
  refine ⟨_, rfl, splitOnP_append_cons _ _ hslash, hnone, ?_⟩
  intro part hpart
  exact resolve_append fun hmem => hnone (hpart.subset hmem)

/-- A request for `/a/b.c/..d`, whose dots make no segment of their own. -/
def dottedRequest : CStr :=
  ⟨[0x2f, 0x61, 0x2f, 0x62, 0x2e, 0x63, 0x2f, 0x2e, 0x2e, 0x64], by decide⟩

theorem serveStaticFile_inside_dotted :
    ∃ opened, (serveStaticFile ⟨true, true, fun _ => some ⟨some 0, []⟩⟩ CStr.a
        (newRoute 1 .prefixMatch getMethod CStr.slashA CStr.a 0).path dottedRequest).1 =
          some opened ∧
      ∃ rest, opened = CStr.a.bytes ++ slash :: rest ∧ dotDot ∉ rest.splitOnP isPathSeparator := by
  have hopen : (serveStaticFile ⟨true, true, fun _ => some ⟨some 0, []⟩⟩ CStr.a
      (newRoute 1 .prefixMatch getMethod CStr.slashA CStr.a 0).path dottedRequest).1 =
        some (CStr.a.bytes ++ slash :: dottedRequest.bytes.drop 3) := by
    decide +kernel
  refine ⟨_, hopen, ?_⟩
  obtain ⟨rest, hrest, -, hnone, -⟩ := serveStaticFile_inside _ _ _ _ _ _
    (Prod.ext hopen rfl) isPathSeparator rfl fun _ hc => hc
  exact ⟨rest, hrest, hnone⟩

end Ducknng
