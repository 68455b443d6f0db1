import Ducknng.Json.Strings
import Mathlib.Data.List.Forall2
import Mathlib.Data.List.Induction

namespace Ducknng

open Option List
/-!
# Template routes

The patterns of HTTP routes and the walk that compares a template such as
`/users/{id}` with a request path. A `char *` into a text is the suffix it points at.

* `walkSegments` — the same walk over the segments of both texts.
* `templateMatches_eq_walkSegments` — the pointer steps compute that walk.
* `templateMatchesBySegments_iff` — when the walk means what the segments say.
-/

/-! ### Paths and their segments -/

/-- `'/'`. -/
def slash : UInt8 := 0x2f

/-- The opening brace of a `{name}` segment. -/
def braceOpen : UInt8 := 0x7b

/-- The closing brace of a `{name}` segment. -/
def braceClose : UInt8 := 0x7d

/-- A text split at every `'/'`. -/
def segments (text : List UInt8) : List (List UInt8) := text.splitOn slash

/-- The bytes before the next `'/'`, or all of them. -/
def segmentAt (text : List UInt8) : List UInt8 := text.takeWhile (· != slash)

/-- Where the next `'/'` is, or the end of the text. -/
def afterSegment (text : List UInt8) : List UInt8 := text.dropWhile (· != slash)

/-- `if (*p == '/') p++`. -/
def skipSlash : List UInt8 → List UInt8
  | [] => []
  | c :: text => if c = slash then text else c :: text

/-- The name in a `{name}` segment: the matcher looks at the first and the last byte. -/
def paramName (segment : List UInt8) : Option (List UInt8) :=
  if segment.head? = some braceOpen ∧ segment.getLast? = some braceClose then
    some ((segment.drop 1).take (segment.length - 2))
  else none

/-! ### What registration accepts -/

/-- `DUCKNNG_HTTP_ROUTE_MATCH_*`. -/
inductive RouteMatchKind
  | exactMatch
  | prefixMatch
  | templateMatch
  deriving DecidableEq

/-- `ducknng_http_route_path_valid`. -/
def pathValid (path : List UInt8) : Bool :=
  path.head? == some slash && path.all fun c => c != 0x3f && c != 0x23

/-- `[A-Za-z_]`. -/
def isNameStart (c : UInt8) : Bool :=
  (0x61 ≤ c && c ≤ 0x7a) || (0x41 ≤ c && c ≤ 0x5a) || c == 0x5f

/-- `[A-Za-z0-9_]`. -/
def isNameByte (c : UInt8) : Bool := isNameStart c || (0x30 ≤ c && c ≤ 0x39)

/-- `ducknng_http_route_template_param_name_valid`. -/
def templateParamNameValid : List UInt8 → Bool
  | [] => false
  | c :: name => isNameStart c && name.all isNameByte

/-- One round of the loop of `ducknng_http_route_template_valid`: whether the segment is a
    parameter. -/
def templateSegmentCheck (segment : List UInt8) : Except String Bool :=
  if segment = [] then .ok false
  else if segment.head? = some braceOpen ∨ segment.getLast? = some braceClose then
    let middle := (segment.drop 1).take (segment.length - 2)
    if segment.head? ≠ some braceOpen ∨ segment.idxOf? braceClose ≠ some (segment.length - 1) ∨
        segment.length < 3 ∨ braceOpen ∈ middle ∨ braceClose ∈ middle then
      .error "ducknng: HTTP route template segments must use \x7bname\x7d and occupy a whole path segment"
    else if templateParamNameValid middle then .ok true
    else .error "ducknng: HTTP route template parameter names must match [A-Za-z_][A-Za-z0-9_]*"
  else .ok false

/-- `ducknng_http_route_template_valid`: the segments of `path + 1` in order. -/
def templateValid (path : List UInt8) : Except String Unit := do
  let params ← (segments (path.drop 1)).mapM templateSegmentCheck
  if params.any id then .ok ()
  else .error "ducknng: template routes must include at least one \x7bname\x7d segment"

/-- `ducknng_http_route_pattern_valid`. -/
def patternValid (kind : RouteMatchKind) (path : List UInt8) : Except String Unit :=
  if pathValid path then
    match kind with
    | .templateMatch => templateValid path
    | _ => .ok ()
  else .error "ducknng: HTTP route path must be an absolute path without query or fragment"

/-! ### The JSON text of the parameters -/

/-- A hexadecimal digit of `%04x`. -/
def hexDigit (n : UInt8) : UInt8 := if n < 10 then 0x30 + n else 0x57 + n

/-- The bytes `ducknng_http_route_json_append_string` writes for one byte. -/
def jsonEscape (c : UInt8) : List UInt8 :=
  if c = quote then [0x5c, quote]
  else if c = 0x5c then [0x5c, 0x5c]
  else if c = 0x08 then [0x5c, 0x62]
  else if c = 0x0c then [0x5c, 0x66]
  else if c = 0x0a then [0x5c, 0x6e]
  else if c = 0x0d then [0x5c, 0x72]
  else if c = 0x09 then [0x5c, 0x74]
  else if c < 0x20 then [0x5c, 0x75, 0x30, 0x30, hexDigit (c / 16), hexDigit (c % 16)]
  else [c]

/-- `ducknng_http_route_json_buf_append`, `none` when it returns -1. `room n` says whether
    the buffer can be made to hold `n` bytes; a buffer that is still `NULL` is `none`. -/
def jsonBufAppend (room : Nat → Bool) (buf : Option (List UInt8)) (src : List UInt8) :
    Option (List UInt8) :=
  let text := buf.getD [] ++ src
  if room (text.length + 1) then some text else none

/-- `ducknng_http_route_json_append_string`. -/
def jsonAppendString (room : Nat → Bool) (buf : Option (List UInt8)) (src : List UInt8) :
    Option (List UInt8) := do
  let text ← jsonBufAppend room buf [quote]
  let text ← src.foldlM (fun text c => jsonBufAppend room (some text) (jsonEscape c)) text
  jsonBufAppend room (some text) [quote]

/-- The bytes one parameter adds to the object. -/
def jsonAppendParam (room : Nat → Bool) (buf : Option (List UInt8)) (first : Bool)
    (name value : List UInt8) : Option (List UInt8) := do
  let text ← if buf.isNone then jsonBufAppend room buf [braceOpen] else buf
  let text ← if first then some text else jsonBufAppend room (some text) [0x2c]
  let text ← jsonAppendString room (some text) name
  let text ← jsonBufAppend room (some text) [0x3a]
  jsonAppendString room (some text) value

/-! ### The matcher -/

/-- What a matcher answers: 0, 1 with the parameter text it leaves (or `NULL`), -1. -/
inductive RouteMatch
  | noMatch
  | matched (paramsJson : Option (List UInt8))
  | outOfMemory
  deriving DecidableEq

/-- The end of `ducknng_http_route_template_matches` on a match. -/
def templateFinish (room : Nat → Bool) (params : Option (List UInt8)) : RouteMatch :=
  match params with
  | some text =>
    match jsonBufAppend room (some text) [braceClose] with
    | some text => .matched (some text)
    | none => .outOfMemory
  | none => if room 3 then .matched (some [braceOpen, braceClose]) else .outOfMemory

theorem afterSegment_length_lt {text : List UInt8} (h : segmentAt text ≠ []) :
    (afterSegment text).length < text.length := by
  have happ : segmentAt text ++ afterSegment text = text := takeWhile_append_dropWhile
  have hlen := congrArg length happ
  rw [length_append] at hlen
  have hpos := length_pos_iff.2 h
  omega

theorem skipSlash_length_le (text : List UInt8) : (skipSlash text).length ≤ text.length := by
  cases text with
  | nil => exact Nat.le_refl _
  | cons c text =>
    by_cases hc : c = slash
    · simp [skipSlash, hc]
    · simp [skipSlash, hc]

/-- The loop of `ducknng_http_route_template_matches`. -/
def templateLoop (room : Nat → Bool) (pat req : List UInt8) (params : Option (List UInt8))
    (first : Bool) : RouteMatch :=
  let pat' := skipSlash pat
  let req' := skipSlash req
  let patSeg := segmentAt pat'
  let reqSeg := segmentAt req'
  if patSeg = [] ∧ reqSeg = [] then templateFinish room params
  else if h : patSeg = [] ∨ reqSeg = [] then .noMatch
  else
    have : (afterSegment pat').length < pat.length :=
      Nat.lt_of_lt_of_le (afterSegment_length_lt fun hn => h (.inl hn)) (skipSlash_length_le pat)
    match paramName patSeg with
    | some name =>
      match jsonAppendParam room params first name reqSeg with
      | none => .outOfMemory
      | some text =>
        if afterSegment pat' = [] ∧ afterSegment req' = [] then templateFinish room (some text)
        else if afterSegment pat' = [] ∨ afterSegment req' = [] then .noMatch
        else templateLoop room (afterSegment pat') (afterSegment req') (some text) false
    | none =>
      if patSeg ≠ reqSeg then .noMatch
      else if afterSegment pat' = [] ∧ afterSegment req' = [] then templateFinish room params
      else if afterSegment pat' = [] ∨ afterSegment req' = [] then .noMatch
      else templateLoop room (afterSegment pat') (afterSegment req') params first
termination_by pat.length

/-- `ducknng_http_route_template_matches`. -/
def templateMatches (room : Nat → Bool) (pattern path : List UInt8) : RouteMatch :=
  templateLoop room pattern path none true

/-! ### The walk over segments -/

/-- The walk of `templateLoop` over the segments of both texts: the parameters it collects,
    `none` where it gives up. Two empty segments end it, whatever follows them. -/
def walkSegments : List (List UInt8) → List (List UInt8) → Option (List (List UInt8 × List UInt8))
  | [], [] => some []
  | t :: ts, p :: ps =>
    if t = [] ∧ p = [] then some []
    else if t = [] ∨ p = [] then none
    else match paramName t with
      | some name => (walkSegments ts ps).map ((name, p) :: ·)
      | none => if t = p then walkSegments ts ps else none
  | _, _ => none

/-- A JSON string. -/
def jsonString (text : List UInt8) : List UInt8 := quote :: text.flatMap jsonEscape ++ [quote]

/-- One member of the parameter object. -/
def jsonMember (param : List UInt8 × List UInt8) : List UInt8 :=
  jsonString param.1 ++ [0x3a] ++ jsonString param.2

/-- The parameter object of a list of names and values. -/
def paramsObject (params : List (List UInt8 × List UInt8)) : List UInt8 :=
  braceOpen :: intercalate [0x2c] (params.map jsonMember) ++ [braceClose]

/-- The unfinished object the matcher has after some parameters: `NULL` before the first. -/
def paramsSoFar (params : List (List UInt8 × List UInt8)) : Option (List UInt8) :=
  if params = [] then none
  else some (braceOpen :: intercalate [0x2c] (params.map jsonMember))

theorem intercalate_concat (sep last : List UInt8) {texts : List (List UInt8)} (h : texts ≠ []) :
    sep.intercalate (texts ++ [last]) = sep.intercalate texts ++ sep ++ last := by
  induction texts with
  | nil => exact absurd rfl h
  | cons text texts ih =>
    cases texts with
    | nil => simp
    | cons next texts =>
      have ih' := ih (cons_ne_nil _ _)
      simp only [cons_append] at ih' ⊢
      rw [intercalate_cons_cons, ih']
      simp

section Room

variable {room : Nat → Bool} (hroom : ∀ n, room n = true)

include hroom

theorem jsonBufAppend_eq (buf : Option (List UInt8)) (src : List UInt8) :
    jsonBufAppend room buf src = some (buf.getD [] ++ src) := by
  simp [jsonBufAppend, hroom]

theorem jsonEscapes_eq (src text : List UInt8) :
    src.foldlM (fun text c => jsonBufAppend room (some text) (jsonEscape c)) text =
      some (text ++ src.flatMap jsonEscape) := by
  induction src generalizing text with
  | nil => simp
  | cons c src ih =>
    rw [foldlM_cons, jsonBufAppend_eq hroom]
    simp [ih]

theorem jsonAppendString_eq (buf : Option (List UInt8)) (src : List UInt8) :
    jsonAppendString room buf src = some (buf.getD [] ++ jsonString src) := by
  unfold jsonAppendString
  rw [jsonBufAppend_eq hroom, bind_eq_bind, bind_some, jsonEscapes_eq hroom,
    bind_some, jsonBufAppend_eq hroom]
  simp [jsonString]

theorem jsonAppendParam_eq (params : List (List UInt8 × List UInt8)) (name value : List UInt8) :
    jsonAppendParam room (paramsSoFar params) params.isEmpty name value =
      paramsSoFar (params ++ [(name, value)]) := by
  cases params with
  | nil =>
    simp [jsonAppendParam, paramsSoFar, jsonBufAppend_eq hroom, jsonAppendString_eq hroom,
      jsonMember]
  | cons param params =>
    have hconcat := intercalate_concat [0x2c] (jsonMember (name, value))
      (cons_ne_nil (jsonMember param) (params.map jsonMember))
    simp only [cons_append] at hconcat
    simp [jsonAppendParam, paramsSoFar, jsonBufAppend_eq hroom, jsonAppendString_eq hroom, hconcat]
    simp [jsonMember]

theorem templateFinish_eq (params : List (List UInt8 × List UInt8)) :
    templateFinish room (paramsSoFar params) = .matched (some (paramsObject params)) := by
  cases params with
  | nil => simp [templateFinish, paramsSoFar, hroom, paramsObject]
  | cons param params =>
    simp [templateFinish, paramsSoFar, jsonBufAppend_eq hroom, paramsObject]

end Room

/-! ### The pointer steps compute the walk -/

theorem segments_ne_nil (text : List UInt8) : segments text ≠ [] := splitOn_ne_nil _ _

/-- The segments of a text: the one at its start, and those behind the next `'/'`. -/
theorem segments_eq (text : List UInt8) :
    segments text = segmentAt text ::
      (if afterSegment text = [] then [] else segments (skipSlash (afterSegment text))) := by
  induction text with
  | nil => rfl
  | cons c text ih =>
    unfold segments at ih ⊢
    rw [splitOn_eq_splitOnP, splitOnP_cons_eq_if_modifyHead] at *
    by_cases hc : c = slash
    · simp [hc, segmentAt, afterSegment, skipSlash, splitOn_eq_splitOnP]
    · have hsegment : segmentAt (c :: text) = c :: segmentAt text := by simp [segmentAt, hc]
      have hafter : afterSegment (c :: text) = afterSegment text := by simp [afterSegment, hc]
      rw [hsegment, hafter, if_neg (by simpa using hc), ih]
      rfl

/-- The walk begins with the segments at the start of both texts. -/
theorem walkSegments_segments (pat req : List UInt8) :
    walkSegments (segments pat) (segments req) = walkSegments
      (segmentAt pat ::
        if afterSegment pat = [] then [] else segments (skipSlash (afterSegment pat)))
      (segmentAt req ::
        if afterSegment req = [] then [] else segments (skipSlash (afterSegment req))) := by
  rw [← segments_eq, ← segments_eq]

/-- Behind a segment stands the end of the text or a `'/'`. -/
theorem walkSegments_behind {pat req : List UInt8}
    (h : ¬(afterSegment pat = [] ∧ afterSegment req = []))
    (hone : afterSegment pat = [] ∨ afterSegment req = []) :
    walkSegments (if afterSegment pat = [] then [] else segments (skipSlash (afterSegment pat)))
      (if afterSegment req = [] then [] else segments (skipSlash (afterSegment req))) = none := by
  rcases hone with hpat | hreq
  · have hreq : afterSegment req ≠ [] := fun hreq => h ⟨hpat, hreq⟩
    obtain ⟨p, ps, hseg⟩ := exists_cons_of_ne_nil (segments_ne_nil (skipSlash (afterSegment req)))
    simp [hpat, hreq, hseg, walkSegments]
  · have hpat : afterSegment pat ≠ [] := fun hpat => h ⟨hpat, hreq⟩
    obtain ⟨t, ts, hseg⟩ := exists_cons_of_ne_nil (segments_ne_nil (skipSlash (afterSegment pat)))
    simp [hpat, hreq, hseg, walkSegments]

/-- What the matcher answers for the parameters a walk collects. -/
def walkAnswer : Option (List (List UInt8 × List UInt8)) → RouteMatch
  | none => .noMatch
  | some params => .matched (some (paramsObject params))

variable {room : Nat → Bool} {ts₁ ps₁ ts ps : List (List UInt8)} {path template : List UInt8}

/-- The loop, after the parameters of `params`, is the walk over the segments that are left. -/
theorem templateLoop_eq (hroom : ∀ n, room n = true) {pat req : List UInt8}
    {buf : Option (List UInt8)} {first : Bool} (params : List (List UInt8 × List UInt8))
    (hbuf : buf = paramsSoFar params) (hfirst : first = params.isEmpty) :
    templateLoop room pat req buf first =
      walkAnswer ((walkSegments (segments (skipSlash pat)) (segments (skipSlash req))).map
        (params ++ ·)) := by
  fun_induction templateLoop room pat req buf first generalizing params
  all_goals
    subst hbuf hfirst
    rw [walkSegments_segments, walkSegments]
  all_goals try simp only [jsonAppendParam_eq hroom] at *
  case case1 | case8 => simp_all +zetaDelta [walkSegments, walkAnswer, templateFinish_eq hroom]
  case case2 hboth hone =>
    rw [if_neg hboth, if_pos hone]
    rfl
  -- there is room for the text of a parameter
  case case3 happend => simp [paramsSoFar] at happend
  case case4 htext =>
    simp_all +zetaDelta [walkSegments, walkAnswer]
    rw [← htext, templateFinish_eq hroom]
  case case5 | case7 | case9 | case10 => simp_all +zetaDelta [walkSegments_behind, walkAnswer]
  case case6 ih htext =>
    have hstep := ih _ htext.symm (by simp)
    simp_all +zetaDelta [Function.comp_def]

theorem templateFinish_ne_noMatch (room : Nat → Bool) (params : Option (List UInt8)) :
    templateFinish room params ≠ .noMatch := by
  unfold templateFinish
  cases params with
  | none =>
    dsimp only
    split <;> simp
  | some text =>
    dsimp only
    split <;> simp

/-- However little memory there is, a mismatch is one of the segments. -/
theorem walkSegments_of_noMatch {pat req : List UInt8} {params : Option (List UInt8)} {first : Bool}
    (h : templateLoop room pat req params first = .noMatch) :
    walkSegments (segments (skipSlash pat)) (segments (skipSlash req)) = none := by
  fun_induction templateLoop room pat req params first with
  | case1 | case4 | case8 => exact absurd h (templateFinish_ne_noMatch _ _)
  | case3 => cases h
  -- the walk takes the branch of the loop; where only one text has ended it does not go on
  | case2 | case5 | case6 | case7 | case9 | case10 =>
    rw [walkSegments_segments]
    simp_all +zetaDelta [walkSegments, walkSegments_behind]

/-- With room for the text, the matcher answers what the walk over the segments finds. -/
theorem templateMatches_eq_walkSegments (hroom : ∀ n, room n = true) (pattern path : List UInt8) :
    templateMatches room pattern path =
      walkAnswer (walkSegments (segments (skipSlash pattern)) (segments (skipSlash path))) := by
  have hloop := @templateLoop_eq _ hroom pattern path _ _ [] rfl rfl
  have hmap : ∀ found : Option (List (List UInt8 × List UInt8)), found.map ([] ++ ·) = found := by
    intro found
    cases found <;> rfl
  rw [hmap] at hloop
  exact hloop

/-! ### What the segments say -/

/-- A segment of a template against a segment of a path: a `{name}` faces any text, another
    segment its own. -/
def SegmentMatches (t p : List UInt8) : Prop :=
  if (paramName t).isSome then p ≠ [] else t = p

instance (t p : List UInt8) : Decidable (SegmentMatches t p) :=
  inferInstanceAs (Decidable (if (paramName t).isSome then p ≠ [] else t = p))

/-- The template matches the path segment by segment. -/
def BySegments (template path : List UInt8) : Prop :=
  Forall₂ SegmentMatches (segments template) (segments path)

/-- Every `{name}` with the segment it faces. -/
def namedSegments (ts ps : List (List UInt8)) : List (List UInt8 × List UInt8) :=
  (ts.zip ps).filterMap fun pair => (paramName pair.1).map (·, pair.2)

/-- What a template route promises for a path: it matches exactly by segments, and the
    parameter object then lists every `{name}` with its segment. -/
def TemplateMatchesBySegments (room : Nat → Bool) (template path : List UInt8) : Prop :=
  (BySegments template path → templateMatches room template path =
    .matched (some (paramsObject (namedSegments (segments template) (segments path))))) ∧
  (¬BySegments template path → templateMatches room template path = .noMatch)

/-- A pair of segments the walk passes. -/
def PassedBy (t p : List UInt8) : Prop := t ≠ [] ∧ SegmentMatches t p

/-- When the walk means what the segments say. Where it passes some segments and then finds
    an empty one on both sides, the rest of the template must be the rest of the path and
    name nothing; and a path it matches must start with a `'/'`, which it does not ask for. -/
def WalkFaithful (template path : List UInt8) : Prop :=
  (∀ ts₁ ts₂ ps₁ ps₂, segments (skipSlash template) = ts₁ ++ [] :: ts₂ →
    segments (skipSlash path) = ps₁ ++ [] :: ps₂ → Forall₂ PassedBy ts₁ ps₁ →
    path.head? = some slash ∧ ts₂ = ps₂ ∧ ∀ t ∈ ts₂, paramName t = none) ∧
  (Forall₂ SegmentMatches (segments (skipSlash template)) (segments (skipSlash path)) →
    path.head? = some slash)

theorem segmentMatches_iff {t p : List UInt8} :
    SegmentMatches t p ↔ ((∃ name, paramName t = some name) ∧ p ≠ []) ∨
      (paramName t = none ∧ t = p) := by
  unfold SegmentMatches
  cases paramName t with
  | none => simp
  | some name => simp

theorem PassedBy.path_ne_nil {t p : List UInt8} (h : PassedBy t p) : p ≠ [] := by
  rcases segmentMatches_iff.1 h.2 with ⟨-, hp⟩ | ⟨-, rfl⟩
  · exact hp
  · exact h.1

theorem namedSegments_cons (t p : List UInt8) (ts ps : List (List UInt8)) :
    namedSegments (t :: ts) (p :: ps) =
      ((paramName t).map (·, p)).toList ++ namedSegments ts ps := by
  unfold namedSegments
  rw [zip_cons_cons, filterMap_cons]
  cases paramName t with
  | none => rfl
  | some name => rfl

theorem namedSegments_append (h : ts₁.length = ps₁.length) (ts₂ ps₂ : List (List UInt8)) :
    namedSegments (ts₁ ++ ts₂) (ps₁ ++ ps₂) = namedSegments ts₁ ps₁ ++ namedSegments ts₂ ps₂ := by
  unfold namedSegments
  rw [zip_append h, filterMap_append]

/-- Segments without a `{name}` name nothing. -/
theorem namedSegments_eq_nil (h : ∀ t ∈ ts, paramName t = none) :
    namedSegments ts ps = [] := by
  unfold namedSegments
  rw [filterMap_eq_nil_iff]
  intro pair hpair
  rw [h pair.1 (of_mem_zip hpair).1]
  rfl

/-- The walk passes the pairs that match and are not empty. -/
theorem walkSegments_passedBy (h : Forall₂ PassedBy ts₁ ps₁) (ts₂ ps₂ : List (List UInt8)) :
    walkSegments (ts₁ ++ ts₂) (ps₁ ++ ps₂) =
      (walkSegments ts₂ ps₂).map (namedSegments ts₁ ps₁ ++ ·) := by
  induction h with
  | nil =>
    rw [nil_append, nil_append]
    cases walkSegments ts₂ ps₂ <;> rfl
  | @cons t p ts ps hpass _ ih =>
    have ht : t ≠ [] := hpass.1
    have hp : p ≠ [] := hpass.path_ne_nil
    rw [cons_append, cons_append, walkSegments, if_neg fun h => ht h.1,
      if_neg (not_or.2 ⟨ht, hp⟩), namedSegments_cons, ih]
    rcases segmentMatches_iff.1 hpass.2 with ⟨⟨name, hname⟩, -⟩ | ⟨hnone, rfl⟩
    · rw [hname]
      simp [Function.comp_def]
    · rw [hnone]
      simp

/-- Everything is passed, or what is passed ends at two empty segments. -/
def WalkEnds (ts ps : List (List UInt8)) : Prop :=
  Forall₂ PassedBy ts ps ∨ ∃ ts₁ ts₂ ps₁ ps₂, ts = ts₁ ++ [] :: ts₂ ∧
    ps = ps₁ ++ [] :: ps₂ ∧ Forall₂ PassedBy ts₁ ps₁

theorem WalkEnds.cons {t p : List UInt8} (hpass : PassedBy t p)
    (h : WalkEnds ts ps) : WalkEnds (t :: ts) (p :: ps) := by
  rcases h with hall | ⟨ts₁, ts₂, ps₁, ps₂, rfl, rfl, hpass'⟩
  · exact .inl (.cons hpass hall)
  · exact .inr ⟨t :: ts₁, ts₂, p :: ps₁, ps₂, rfl, rfl, .cons hpass hpass'⟩

/-- Where the walk ends well, it has passed everything or met two empty segments. -/
theorem walkEnds_of_walkSegments {params : List (List UInt8 × List UInt8)}
    (h : walkSegments ts ps = some params) :
    WalkEnds ts ps := by
  induction ts generalizing ps params with
  | nil =>
    cases ps with
    | nil => exact .inl .nil
    | cons p ps => cases h
  | cons t ts ih =>
    cases ps with
    | nil => cases h
    | cons p ps =>
      rw [walkSegments] at h
      split at h
      · next hempty =>
        obtain ⟨rfl, rfl⟩ := hempty
        exact .inr ⟨[], ts, [], ps, rfl, rfl, .nil⟩
      split at h
      · cases h
      next hone =>
      obtain ⟨ht, hp⟩ := not_or.1 hone
      split at h
      · next name hname =>
        obtain ⟨rest, hrest, -⟩ := map_eq_some_iff.1 h
        exact .cons ⟨ht, segmentMatches_iff.2 (.inl ⟨⟨name, hname⟩, hp⟩)⟩ (ih hrest)
      · next hname =>
        split at h
        · next heq => exact .cons ⟨ht, segmentMatches_iff.2 (.inr ⟨hname, heq⟩)⟩ (ih h)
        · cases h

/-- Segments that match are walked to an end. -/
theorem walkEnds_of_segmentMatches (h : Forall₂ SegmentMatches ts ps) : WalkEnds ts ps := by
  induction h with
  | nil => exact .inl .nil
  | @cons t p ts ps hmatch _ ih =>
    by_cases ht : t = []
    · subst ht
      obtain rfl : [] = p := by
        rcases segmentMatches_iff.1 hmatch with ⟨⟨name, hname⟩, -⟩ | ⟨-, heq⟩
        · exact absurd hname (by simp [paramName])
        · exact heq
      exact .inr ⟨[], ts, [], ps, rfl, rfl, .nil⟩
    · exact .cons ⟨ht, hmatch⟩ ih

/-- The walk stops at two empty segments with the parameters it has. -/
theorem walkSegments_stop (h : Forall₂ PassedBy ts₁ ps₁) (ts₂ ps₂ : List (List UInt8)) :
    walkSegments (ts₁ ++ [] :: ts₂) (ps₁ ++ [] :: ps₂) = some (namedSegments ts₁ ps₁) := by
  rw [walkSegments_passedBy h, walkSegments]
  simp

theorem walkSegments_all (h : Forall₂ PassedBy ts ps) :
    walkSegments ts ps = some (namedSegments ts ps) := by
  have hwalk := walkSegments_passedBy h [] []
  rw [append_nil, append_nil] at hwalk
  rw [hwalk]
  simp [walkSegments]

/-- A longer list of parameters has a longer object. -/
theorem paramsObject_append {params more : List (List UInt8 × List UInt8)}
    (h : paramsObject (params ++ more) = paramsObject params) : more = [] := by
  by_contra hmore
  have hlength : (intercalate [0x2c] (params.map jsonMember)).length <
      (intercalate [0x2c] ((params ++ more).map jsonMember)).length := by
    clear h
    induction more using reverseRecOn with
    | nil => exact absurd rfl hmore
    | append_singleton more last ih =>
      have hlast : 0 < (jsonMember last).length := by simp [jsonMember, jsonString]
      rw [← append_assoc, map_append, map_singleton]
      by_cases hnone : (params ++ more).map jsonMember = []
      · obtain ⟨rfl, rfl⟩ : params = [] ∧ more = [] := by simpa using hnone
        simpa using hlast
      · rw [intercalate_concat _ _ hnone, length_append, length_append]
        by_cases hempty : more = []
        · subst hempty
          rw [append_nil]
          omega
        · have := ih hempty
          omega
  have hsame := congrArg length h
  simp only [paramsObject, length_append, length_cons] at hsame
  omega

/-! ### The matcher against the segments -/

/-- A template starts with a `'/'`. -/
theorem head_of_patternValid {kind : RouteMatchKind} (h : patternValid kind path = .ok ()) :
    path.head? = some slash := by
  unfold patternValid at h
  split at h
  · next hvalid =>
    simp only [pathValid, Bool.and_eq_true, beq_iff_eq] at hvalid
    exact hvalid.1
  · cases h

theorem segments_of_head {text : List UInt8} (h : text.head? = some slash) :
    segments text = [] :: segments (skipSlash text) := by
  cases text with
  | nil => cases h
  | cons c text =>
    obtain rfl : c = slash := by simpa using h
    rw [segments_eq]
    simp [segmentAt, afterSegment]

/-- Only a path that starts with a `'/'` has the empty first segment of a template. -/
theorem bySegments_iff (ht : template.head? = some slash) :
    BySegments template path ↔ path.head? = some slash ∧
      Forall₂ SegmentMatches (segments (skipSlash template)) (segments (skipSlash path)) := by
  unfold BySegments
  rw [segments_of_head ht]
  have hnil : ∀ p, SegmentMatches [] p ↔ p = [] := by
    intro p
    rw [SegmentMatches, show paramName [] = none from rfl]
    simp
  by_cases hp : path.head? = some slash
  · rw [segments_of_head hp, forall₂_cons, hnil]
    simp [hp]
  · simp only [hp, false_and, iff_false]
    intro hall
    cases path with
    | nil =>
      -- the one segment of the empty path faces two or more
      obtain ⟨t, ts, hts⟩ := exists_cons_of_ne_nil (segments_ne_nil (skipSlash template))
      have hlen := hall.length_eq
      simp [segments] at hlen
    | cons c path =>
      have hc : c ≠ slash := fun h => hp (by rw [h]; rfl)
      rw [segments_eq (c :: path), forall₂_cons, hnil] at hall
      exact absurd hall.1 (by simp [segmentAt, hc])

theorem segmentMatches_self (h : ∀ t ∈ ts, paramName t = none) :
    Forall₂ SegmentMatches ts ts := by
  rw [forall₂_same]
  intro t ht
  exact segmentMatches_iff.2 (.inr ⟨h t ht, rfl⟩)

/-- Segments that match and name nothing are the same. -/
theorem eq_of_segmentMatches (h : Forall₂ SegmentMatches ts ps)
    (hnamed : namedSegments ts ps = []) : ts = ps ∧ ∀ t ∈ ts, paramName t = none := by
  induction h with
  | nil => exact ⟨rfl, forall_mem_nil _⟩
  | @cons t p ts ps hmatch _ ih =>
    rw [namedSegments_cons, append_eq_nil_iff] at hnamed
    obtain ⟨rfl, hnone⟩ := ih hnamed.2
    have hname : paramName t = none := by
      cases hname : paramName t with
      | none => rfl
      | some name => simp [hname] at hnamed
    rcases segmentMatches_iff.1 hmatch with ⟨⟨name, hsome⟩, -⟩ | ⟨-, rfl⟩
    · exact absurd hsome (by simp [hname])
    · exact ⟨rfl, forall_mem_cons.2 ⟨hname, hnone⟩⟩

theorem segmentMatches_of_passedBy (h : Forall₂ PassedBy ts ps) :
    Forall₂ SegmentMatches ts ps := h.imp fun _ _ hpass => hpass.2

/-- The names of a template and a path that start with a `'/'`. -/
theorem namedSegments_of_head (ht : template.head? = some slash) (hp : path.head? = some slash) :
    namedSegments (segments template) (segments path) =
      namedSegments (segments (skipSlash template)) (segments (skipSlash path)) := by
  rw [segments_of_head ht, segments_of_head hp]
  rfl

/-- A faithful walk finds exactly the names of segments that match. -/
theorem walkSegments_of_faithful (hf : WalkFaithful template path)
    (h : Forall₂ SegmentMatches (segments (skipSlash template)) (segments (skipSlash path))) :
    walkSegments (segments (skipSlash template)) (segments (skipSlash path)) =
      some (namedSegments (segments (skipSlash template)) (segments (skipSlash path))) := by
  rcases walkEnds_of_segmentMatches h with hall | ⟨ts₁, ts₂, ps₁, ps₂, hts, hps, hpass⟩
  · exact walkSegments_all hall
  · obtain ⟨-, -, hnone⟩ := hf.1 ts₁ ts₂ ps₁ ps₂ hts hps hpass
    have hrest : namedSegments ([] :: ts₂) ([] :: ps₂) = [] := by
      rw [namedSegments_cons, namedSegments_eq_nil hnone]
      rfl
    rw [hts, hps, walkSegments_stop hpass, namedSegments_append hpass.length_eq, hrest, append_nil]

/-- A faithful walk ends well only where the segments match. -/
theorem segmentMatches_of_faithful (hf : WalkFaithful template path)
    (h : WalkEnds (segments (skipSlash template)) (segments (skipSlash path))) :
    path.head? = some slash ∧
      Forall₂ SegmentMatches (segments (skipSlash template)) (segments (skipSlash path)) := by
  rcases h with hall | ⟨ts₁, ts₂, ps₁, ps₂, hts, hps, hpass⟩
  · have hmatch := segmentMatches_of_passedBy hall
    exact ⟨hf.2 hmatch, hmatch⟩
  · obtain ⟨hhead, rfl, hnone⟩ := hf.1 ts₁ ts₂ ps₁ ps₂ hts hps hpass
    refine ⟨hhead, ?_⟩
    rw [hts, hps]
    apply rel_append (segmentMatches_of_passedBy hpass)
    exact .cons (segmentMatches_iff.2 (.inr ⟨rfl, rfl⟩)) (segmentMatches_self hnone)

/-- **Template matching.** For a registered template and any path, the matcher answers by
    segments exactly when its walk is faithful: it stops at the first pair of empty segments
    and reports a match, so nothing that matters may stand behind them. -/
theorem templateMatchesBySegments_iff {room : Nat → Bool} (hroom : ∀ n, room n = true)
    {template : List UInt8} (hvalid : patternValid .templateMatch template = .ok ())
    (path : List UInt8) :
    TemplateMatchesBySegments room template path ↔ WalkFaithful template path := by
  have ht := head_of_patternValid hvalid
  unfold TemplateMatchesBySegments
  rw [templateMatches_eq_walkSegments hroom, bySegments_iff ht]
  constructor
  · rintro ⟨hyes, hno⟩
    -- wherever the walk ends well, the segments match and no name is missing
    have hends : ∀ {params}, walkSegments (segments (skipSlash template))
        (segments (skipSlash path)) = some params →
        (path.head? = some slash ∧ Forall₂ SegmentMatches (segments (skipSlash template))
          (segments (skipSlash path))) ∧
        paramsObject (namedSegments (segments (skipSlash template)) (segments (skipSlash path))) =
          paramsObject params := by
      intro params hwalk
      rw [hwalk] at hyes hno
      by_cases hmatch : path.head? = some slash ∧ Forall₂ SegmentMatches
          (segments (skipSlash template)) (segments (skipSlash path))
      · have hobject := hyes hmatch
        rw [namedSegments_of_head ht hmatch.1] at hobject
        simp only [walkAnswer, RouteMatch.matched.injEq, Option.some.injEq] at hobject
        exact ⟨hmatch, hobject.symm⟩
      · exact absurd (hno hmatch) (by simp [walkAnswer])
    constructor
    · intro ts₁ ts₂ ps₁ ps₂ hts hps hpass
      have hwalk := walkSegments_stop hpass ts₂ ps₂
      rw [← hts, ← hps] at hwalk
      obtain ⟨⟨hhead, hmatch⟩, hobject⟩ := hends hwalk
      rw [hts, hps, namedSegments_append hpass.length_eq] at hobject
      have hrest := paramsObject_append hobject
      rw [hts, hps] at hmatch
      have htail : Forall₂ SegmentMatches ([] :: ts₂) ([] :: ps₂) := by
        have hdrop := forall₂_drop ts₁.length hmatch
        rw [drop_left, hpass.length_eq, drop_left] at hdrop
        exact hdrop
      obtain ⟨heq, hnone⟩ := eq_of_segmentMatches htail hrest
      exact ⟨hhead, (cons.inj heq).2, (forall_mem_cons.1 hnone).2⟩
    · intro hmatch
      rcases walkEnds_of_segmentMatches hmatch with hall | ⟨ts₁, ts₂, ps₁, ps₂, hts, hps, hpass⟩
      · exact (hends (walkSegments_all hall)).1.1
      · have hwalk := walkSegments_stop hpass ts₂ ps₂
        rw [← hts, ← hps] at hwalk
        exact (hends hwalk).1.1
  · intro hf
    constructor
    · rintro ⟨hhead, hmatch⟩
      rw [walkSegments_of_faithful hf hmatch, namedSegments_of_head ht hhead]
      rfl
    · intro hno
      cases hwalk : walkSegments (segments (skipSlash template)) (segments (skipSlash path)) with
      | none => rfl
      | some params =>
        exact absurd (segmentMatches_of_faithful hf (walkEnds_of_walkSegments hwalk)) hno

/-- The template `/u/{id}` against the path `/u/7`. -/
theorem templateMatchesBySegments_userId :
    patternValid .templateMatch [0x2f, 0x75, 0x2f, 0x7b, 0x69, 0x64, 0x7d] = .ok () ∧
      (TemplateMatchesBySegments (fun _ => true) [0x2f, 0x75, 0x2f, 0x7b, 0x69, 0x64, 0x7d]
        [0x2f, 0x75, 0x2f, 0x37] ↔
        WalkFaithful [0x2f, 0x75, 0x2f, 0x7b, 0x69, 0x64, 0x7d] [0x2f, 0x75, 0x2f, 0x37]) :=
  ⟨rfl, templateMatchesBySegments_iff (fun _ => rfl) rfl _⟩

/-- `/a//{x}` matches `/a//z` and loses its parameter, and `/{x}/` matches `/z//f`. -/
theorem template_stops_at_empty_segments :
    (patternValid .templateMatch [0x2f, 0x61, 0x2f, 0x2f, 0x7b, 0x78, 0x7d] = .ok () ∧
      ¬TemplateMatchesBySegments (fun _ => true) [0x2f, 0x61, 0x2f, 0x2f, 0x7b, 0x78, 0x7d]
        [0x2f, 0x61, 0x2f, 0x2f, 0x7a]) ∧
    patternValid .templateMatch [0x2f, 0x7b, 0x78, 0x7d, 0x2f] = .ok () ∧
      ¬TemplateMatchesBySegments (fun _ => true) [0x2f, 0x7b, 0x78, 0x7d, 0x2f]
        [0x2f, 0x7a, 0x2f, 0x2f, 0x66] := by
  refine ⟨⟨rfl, ?_⟩, rfl, ?_⟩
  · rintro ⟨hyes, -⟩
    rw [templateMatches_eq_walkSegments fun _ => rfl] at hyes
    exact absurd (hyes (by unfold BySegments; decide)) (by decide)
  · rintro ⟨-, hno⟩
    rw [templateMatches_eq_walkSegments fun _ => rfl] at hno
    exact absurd (hno (by unfold BySegments; decide)) (by decide)

end Ducknng
