import Ducknng.Http.HeaderList

namespace Ducknng

open List
/-!
# The grammar of header lists

What a header list is as a text, and what the two readers of header lists have to do with it.
The reader that looks a header up accepts texts of the grammar only. The reader that adds the
headers to a request goes its own way with some texts outside the grammar, and refuses some of
the grammar; but a text of the grammar that it accepts, it reads as the grammar says.

* `HeaderReader.Sound.headers` — what a sound reader accepts is a header list.
* `HeaderReader.Faithful.headers` — a header list that a faithful reader accepts is read as the
  grammar says.
* `utilHeaderReader_sound`, `compatHeaderReader_faithful` — the two readers.
-/

/-! ### The grammar -/

/-- A string with its quotes, and its value. -/
def StringText (text value : List UInt8) : Prop :=
  ∃ chars, text = quote :: chars ++ [quote] ∧ JsonChars chars value

/-- A field of a header object with the white space around it, and the fields before and
    after. -/
def FieldText (read : HeaderFields) (text : List UInt8) (read' : HeaderFields) : Prop :=
  ∃ w₁ k w₂ w₃ v w₄ key value, text = w₁ ++ (k ++ (w₂ ++ 0x3a :: (w₃ ++ (v ++ w₄)))) ∧
    JsonWs w₁ ∧ StringText k key ∧ JsonWs w₂ ∧ JsonWs w₃ ∧ StringText v value ∧ JsonWs w₄ ∧
    read.put key value = .ok read'

/-- The fields of a header object, up to its closing brace. -/
inductive FieldsText : HeaderFields → List UInt8 → HeaderFields → Prop
  | last {read read' : HeaderFields} {text : List UInt8} (h : FieldText read text read') :
      FieldsText read (text ++ [0x7d]) read'
  | more {read read₁ read' : HeaderFields} {text rest : List UInt8}
      (h : FieldText read text read₁) (hrest : FieldsText read₁ rest read') :
      FieldsText read (text ++ 0x2c :: rest) read'

/-- A header object with the white space before it. -/
def HeaderText (text : List UInt8) (header : HttpHeader) : Prop :=
  ∃ w t, text = w ++ 0x7b :: t ∧ JsonWs w ∧
    FieldsText {} t ⟨some header.1, some header.2⟩ ∧ header.1 ≠ []

/-- What may stand between the brackets of a header list that is not empty. -/
inductive HeaderItems : List UInt8 → List HttpHeader → Prop
  | last {text w : List UInt8} {header : HttpHeader} (h : HeaderText text header) (hw : JsonWs w) :
      HeaderItems (text ++ w) [header]
  | cons {text w rest : List UInt8} {header : HttpHeader} {headers : List HttpHeader}
      (h : HeaderText text header) (hw : JsonWs w) (hrest : HeaderItems rest headers) :
      HeaderItems (text ++ (w ++ 0x2c :: rest)) (header :: headers)

/-- A header list, with its headers. -/
def HeaderArray (json : List UInt8) (headers : List HttpHeader) : Prop :=
  ∃ w₁ body w₂, json = w₁ ++ 0x5b :: (body ++ 0x5d :: w₂) ∧ JsonWs w₁ ∧ JsonWs w₂ ∧
    (JsonWs body ∧ headers = [] ∨ HeaderItems body headers)

variable {w text rest rest' : List UInt8} {c : UInt8}

theorem HeaderText.ws_append {header : HttpHeader} (hw : JsonWs w) (h : HeaderText text header) :
    HeaderText (w ++ text) header := by
  obtain ⟨w', t, rfl, hw', hrest⟩ := h
  exact ⟨w ++ w', t, by rw [append_assoc], forall_mem_append.2 ⟨hw, hw'⟩, hrest⟩

theorem HeaderItems.ws_append {headers : List HttpHeader} (hw : JsonWs w)
    (h : HeaderItems text headers) : HeaderItems (w ++ text) headers := by
  cases h with
  | last h hw' =>
    rw [← append_assoc]
    exact .last (h.ws_append hw) hw'
  | cons h hw' hrest =>
    rw [← append_assoc]
    exact .cons (h.ws_append hw) hw' hrest

theorem jsonWs_nil : JsonWs [] := forall_mem_nil _

/-- One more header at the end. -/
theorem HeaderItems.append {text' : List UInt8} {header : HttpHeader} {headers : List HttpHeader}
    (h : HeaderItems text headers) (h' : HeaderText text' header) :
    HeaderItems (text ++ 0x2c :: text') (headers ++ [header]) := by
  have hlast : HeaderItems text' [header] := by
    have hnil := HeaderItems.last h' jsonWs_nil
    rwa [append_nil] at hnil
  induction h with
  | last h hw =>
    rw [append_assoc]
    exact .cons h hw hlast
  | cons h hw _ ih =>
    have hcons := HeaderItems.cons h hw ih
    simpa only [append_assoc, cons_append] using hcons

/-! ### A reader that accepts texts of the grammar only -/

namespace HeaderReader

/-- The reader skips JSON white space and reads JSON strings. -/
structure Sound (r : HeaderReader) : Prop where
  ws : ∀ c, r.isWs c = true → isJsonWs c = true
  string : ∀ {text value rest : List UInt8}, r.parseString text = .ok (value, rest) →
    ∃ t, text = t ++ rest ∧ StringText t value

variable {r : HeaderReader}

theorem Sound.skipWs_split (hr : r.Sound) (text : List UInt8) :
    ∃ w, text = w ++ r.skipWs text ∧ JsonWs w :=
  ⟨text.takeWhile r.isWs, takeWhile_append_dropWhile.symm,
    fun c hc => hr.ws c (all_eq_true.1 all_takeWhile c hc)⟩

variable {read read' : HeaderFields} {t : List UInt8}

theorem Sound.field (hr : r.Sound) (h : r.field read text = .ok (read', rest)) :
    ∃ t, text = t ++ rest ∧ FieldText read t read' := by
  obtain ⟨key, p, q, value, s, hkey, hcolon, hvalue, hput, rfl⟩ := field_eq_ok h
  obtain ⟨w₁, hw₁, hws₁⟩ := hr.skipWs_split text
  obtain ⟨w₂, hw₂, hws₂⟩ := hr.skipWs_split p
  obtain ⟨w₃, hw₃, hws₃⟩ := hr.skipWs_split q
  obtain ⟨w₄, hw₄, hws₄⟩ := hr.skipWs_split s
  obtain ⟨k, hk, hkt⟩ := hr.string hkey
  obtain ⟨v, hv, hvt⟩ := hr.string hvalue
  refine ⟨w₁ ++ (k ++ (w₂ ++ 0x3a :: (w₃ ++ (v ++ w₄)))), ?_, w₁, k, w₂, w₃, v, w₄, key, value, rfl,
    hws₁, hkt, hws₂, hws₃, hvt, hws₄, hput⟩
  calc text = w₁ ++ (k ++ p) := by rw [← hk]; exact hw₁
    _ = w₁ ++ (k ++ (w₂ ++ 0x3a :: q)) := by rw [← hcolon, ← hw₂]
    _ = w₁ ++ (k ++ (w₂ ++ 0x3a :: (w₃ ++ (v ++ s)))) := by rw [← hv, ← hw₃]
    _ = _ := by
      simp only [append_assoc, cons_append, ← hw₄]

theorem Sound.fields (hr : r.Sound) (h : r.fields read text = .ok (read', rest)) :
    ∃ t, text = t ++ rest ∧ FieldsText read t read' := by
  fun_induction HeaderReader.fields r read text
  case case3 hfield _ ih =>
    obtain ⟨t, rfl, ht⟩ := hr.field hfield
    obtain ⟨t', rfl, ht'⟩ := ih h
    exact ⟨t ++ 0x2c :: t', by simp, .more ht ht'⟩
  case case4 hfield _ =>
    obtain ⟨t, rfl, ht⟩ := hr.field hfield
    cases h
    exact ⟨t ++ [0x7d], by simp, .last ht⟩
  all_goals cases h

theorem Sound.header (hr : r.Sound) {found : HttpHeader}
    (h : r.header text = .ok (found, rest)) : ∃ t, text = t ++ rest ∧ HeaderText t found := by
  obtain ⟨p, hopen, hfields, hne, -⟩ := header_eq_ok h
  obtain ⟨w, hw, hws⟩ := hr.skipWs_split text
  obtain ⟨t, rfl, ht⟩ := hr.fields hfields
  refine ⟨w ++ 0x7b :: t, ?_, w, t, rfl, hws, ht, hne⟩
  rw [hw, hopen]
  simp

section
variable {σ : Type} {act : σ → HttpHeader → Except (Option String) σ} {s s' : σ}

theorem Sound.headersLoop (hr : r.Sound) (h : r.headersLoop act s text = .ok (s', rest)) :
    ∃ t headers, text = t ++ 0x5d :: rest ∧ HeaderItems t headers ∧
      headers.foldlM act s = .ok s' := by
  fun_induction HeaderReader.headersLoop r act s text
  case case4 found p hheader s₁ hact q hq _ ih =>
    obtain ⟨t, rfl, ht⟩ := hr.header hheader
    obtain ⟨w, hw, hws⟩ := hr.skipWs_split p
    rw [hq] at hw
    subst hw
    obtain ⟨t', headers, rfl, hitems, hfold⟩ := ih h
    refine ⟨t ++ (w ++ 0x2c :: t'), found :: headers, by simp, .cons ht hws hitems, ?_⟩
    rw [foldlM_cons, hact]
    exact hfold
  case case5 found p hheader s₁ hact q hq _ =>
    obtain ⟨t, rfl, ht⟩ := hr.header hheader
    obtain ⟨w, hw, hws⟩ := hr.skipWs_split p
    rw [hq] at hw
    subst hw
    cases h
    refine ⟨t ++ w, [found], by simp, .last ht hws, ?_⟩
    rw [foldlM_cons, hact]
    rfl
  all_goals cases h

/-- **What a sound reader accepts** is a header list, and it goes over its headers. -/
theorem Sound.headers (hr : r.Sound) {json : List UInt8} (h : r.headers act s json = .ok s') :
    ∃ headers, HeaderArray json headers ∧ headers.foldlM act s = .ok s' := by
  obtain ⟨p, hopen, h⟩ := Except.parts_of_bind h
  obtain ⟨⟨s₁, rest⟩, hbody, h⟩ := Except.parts_of_bind h
  dsimp only at h
  split at h
  · next hend =>
    cases h
    obtain ⟨w₁, hw₁, hws₁⟩ := hr.skipWs_split json
    obtain ⟨w, hw, hws⟩ := hr.skipWs_split p
    obtain ⟨w₂, hw₂, hws₂⟩ := hr.skipWs_split rest
    rw [expectByte_eq_ok hopen] at hw₁
    rw [hend, append_nil] at hw₂
    subst hw₂
    cases hq : r.skipWs p with
    | nil =>
      rw [hq] at hbody
      obtain ⟨t, headers, hnil, -⟩ := hr.headersLoop hbody
      simp at hnil
    | cons c q =>
    rw [hq] at hw hbody
    rw [headersBody] at hbody
    split at hbody
    · next hclose =>
      -- the empty list
      cases hbody
      subst hclose hw hw₁
      exact ⟨[], ⟨w₁, w, rest, rfl, hws₁, hws₂, .inl ⟨hws, rfl⟩⟩, rfl⟩
    · obtain ⟨t, headers, ht, hitems, hfold⟩ := hr.headersLoop hbody
      rw [ht] at hw
      subst hw hw₁
      exact ⟨headers, ⟨w₁, w ++ t, rest, by simp, hws₁, hws₂, .inr (hitems.ws_append hws)⟩, hfold⟩
  · cases h

end

/-! ### A reader that reads texts of the grammar as they are, or not at all -/

/-- The bytes that open, close and separate what a header list is made of. -/
def IsMark (c : UInt8) : Prop :=
  c = quote ∨ c = 0x3a ∨ c = 0x2c ∨ c = 0x7b ∨ c = 0x7d ∨ c = 0x5b ∨ c = 0x5d

/-- The reader skips JSON white space, no mark, and takes a string for its value. -/
structure Faithful (r : HeaderReader) : Prop where
  ws : ∀ c, isJsonWs c = true → r.isWs c = true
  mark : ∀ c, IsMark c → r.isWs c = false
  string : ∀ {text value value' rest rest' : List UInt8}, StringText text value →
    r.parseString (text ++ rest) = .ok (value', rest') → value' = value ∧ rest' = rest

section
variable (hr : r.Faithful)
include hr

theorem Faithful.skipWs_ws (hw : JsonWs w) (text : List UInt8) :
    r.skipWs (w ++ text) = r.skipWs text :=
  dropWhile_append_of_pos fun c hc => hr.ws c (hw c hc)

theorem Faithful.skipWs_mark (hc : IsMark c) (text : List UInt8) :
    r.skipWs (c :: text) = c :: text :=
  dropWhile_cons_of_neg (by rw [hr.mark c hc]; exact Bool.false_ne_true)

theorem Faithful.skipWs_string {value : List UInt8} (h : StringText text value)
    (rest : List UInt8) :
    r.skipWs (text ++ rest) = text ++ rest := by
  obtain ⟨chars, rfl, -⟩ := h
  exact hr.skipWs_mark (.inl rfl) _

theorem Faithful.field {read'' : HeaderFields} (ht : FieldText read t read')
    (hc : IsMark c) (h : r.field read (t ++ c :: rest) = .ok (read'', rest')) :
    read'' = read' ∧ rest' = c :: rest := by
  obtain ⟨w₁, k, w₂, w₃, v, w₄, key, value, rfl, hw₁, hk, hw₂, hw₃, hv, hw₄, hput⟩ := ht
  obtain ⟨key', p, q, value', s, hkey, hcolon, hvalue, hput', rfl⟩ := field_eq_ok h
  simp only [append_assoc, cons_append] at hkey
  rw [hr.skipWs_ws hw₁, hr.skipWs_string hk] at hkey
  obtain ⟨rfl, rfl⟩ := hr.string hk hkey
  rw [hr.skipWs_ws hw₂, hr.skipWs_mark (.inr (.inl rfl))] at hcolon
  obtain ⟨-, rfl⟩ := cons.inj hcolon
  rw [hr.skipWs_ws hw₃, hr.skipWs_string hv] at hvalue
  obtain ⟨rfl, rfl⟩ := hr.string hv hvalue
  rw [hput] at hput'
  exact ⟨(Except.ok.inj hput').symm, by rw [hr.skipWs_ws hw₄, hr.skipWs_mark hc]⟩

theorem Faithful.fields {read'' : HeaderFields} (ht : FieldsText read t read')
    (h : r.fields read (t ++ rest) = .ok (read'', rest')) : read'' = read' ∧ rest' = rest := by
  induction ht with
  | last hfield =>
    rw [append_assoc, HeaderReader.fields] at h
    split at h
    · cases h
    · cases h
    next read₁ c p hstep =>
    obtain ⟨rfl, hrest⟩ := hr.field hfield (.inr (.inr (.inr (.inr (.inl rfl))))) hstep
    obtain ⟨rfl, rfl⟩ := cons.inj hrest
    cases h
    exact ⟨rfl, rfl⟩
  | more hfield _ ih =>
    rw [append_assoc, HeaderReader.fields] at h
    split at h
    · cases h
    · cases h
    next read₁ c p hstep =>
    obtain ⟨rfl, hrest⟩ := hr.field hfield (.inr (.inr (.inl rfl))) hstep
    obtain ⟨rfl, rfl⟩ := cons.inj hrest
    exact ih h

theorem Faithful.header {header found : HttpHeader}
    (ht : HeaderText t header) (h : r.header (t ++ rest) = .ok (found, rest')) :
    found = header ∧ rest' = rest := by
  obtain ⟨w, u, rfl, hw, hu, -⟩ := ht
  obtain ⟨p, hopen, hfields, -⟩ := header_eq_ok h
  rw [append_assoc, hr.skipWs_ws hw, cons_append,
    hr.skipWs_mark (.inr (.inr (.inr (.inl rfl))))] at hopen
  obtain ⟨-, rfl⟩ := cons.inj hopen
  obtain ⟨hread, rfl⟩ := hr.fields hu hfields
  obtain ⟨hname, hvalue⟩ := HeaderFields.mk.inj hread
  exact ⟨Prod.ext (Option.some.inj hname) (Option.some.inj hvalue), rfl⟩

end

section
variable {σ : Type} {act : σ → HttpHeader → Except (Option String) σ} {s s' : σ}

theorem Faithful.headersLoop (hr : r.Faithful)
    {headers : List HttpHeader} (ht : HeaderItems t headers)
    (h : r.headersLoop act s (t ++ 0x5d :: rest) = .ok (s', rest')) :
    headers.foldlM act s = .ok s' ∧ rest' = rest := by
  induction ht generalizing s with
  | last hheader hw =>
    rw [append_assoc, HeaderReader.headersLoop] at h
    split at h
    · cases h
    next found p hstep =>
    obtain ⟨rfl, rfl⟩ := hr.header hheader hstep
    split at h
    · cases h
    next s₁ hact =>
    split at h
    · cases h
    next c q hq =>
    rw [hr.skipWs_ws hw, hr.skipWs_mark (.inr (.inr (.inr (.inr (.inr (.inr rfl))))))] at hq
    obtain ⟨rfl, rfl⟩ := cons.inj hq
    cases h
    rw [foldlM_cons, hact]
    exact ⟨rfl, rfl⟩
  | cons hheader hw _ ih =>
    simp only [append_assoc, cons_append] at h
    rw [HeaderReader.headersLoop] at h
    split at h
    · cases h
    next found p hstep =>
    obtain ⟨rfl, rfl⟩ := hr.header hheader hstep
    split at h
    · cases h
    next s₁ hact =>
    split at h
    · cases h
    next c q hq =>
    rw [hr.skipWs_ws hw, hr.skipWs_mark (.inr (.inr (.inl rfl)))] at hq
    obtain ⟨rfl, rfl⟩ := cons.inj hq
    rw [foldlM_cons, hact]
    exact ih h

/-- The white space before the first header goes first. -/
theorem Faithful.skipWs_items (hr : r.Faithful) {headers : List HttpHeader}
    (ht : HeaderItems t headers) (rest : List UInt8) :
    ∃ u, r.skipWs (t ++ rest) = 0x7b :: (u ++ rest) ∧ HeaderItems (0x7b :: u) headers := by
  have hopen : ∀ u, r.skipWs (0x7b :: u) = 0x7b :: u :=
    hr.skipWs_mark (.inr (.inr (.inr (.inl rfl))))
  cases ht with
  | last hheader hw =>
    obtain ⟨w, v, rfl, hws, hfields, hne⟩ := hheader
    rw [append_assoc, append_assoc, hr.skipWs_ws hws, cons_append, hopen]
    exact ⟨v ++ _, by rw [append_assoc], .last ⟨[], v, rfl, jsonWs_nil, hfields, hne⟩ hw⟩
  | cons hheader hw hmore =>
    obtain ⟨w, v, rfl, hws, hfields, hne⟩ := hheader
    rw [append_assoc, append_assoc, hr.skipWs_ws hws, cons_append, hopen]
    exact ⟨v ++ _, by simp, .cons ⟨[], v, rfl, jsonWs_nil, hfields, hne⟩ hw hmore⟩

/-- **A header list that a faithful reader accepts** is read as the grammar says. -/
theorem Faithful.headers (hr : r.Faithful) {json : List UInt8} {headers : List HttpHeader}
    (hjson : HeaderArray json headers) (h : r.headers act s json = .ok s') :
    headers.foldlM act s = .ok s' := by
  obtain ⟨w₁, body, w₂, rfl, hw₁, hw₂, hbody⟩ := hjson
  obtain ⟨p, hopen, hrest⟩ := Except.parts_of_bind h
  obtain ⟨⟨s₁, rest⟩, hread, hend⟩ := Except.parts_of_bind hrest
  have hp := expectByte_eq_ok hopen
  rw [hr.skipWs_ws hw₁, hr.skipWs_mark (.inr (.inr (.inr (.inr (.inr (.inl rfl))))))] at hp
  obtain ⟨-, rfl⟩ := cons.inj hp
  have hs : s₁ = s' := by
    dsimp only at hend
    split at hend
    · exact Except.ok.inj hend
    · cases hend
  subst hs
  rcases hbody with ⟨hws, rfl⟩ | hitems
  · rw [hr.skipWs_ws hws, hr.skipWs_mark (.inr (.inr (.inr (.inr (.inr (.inr rfl)))))),
      headersBody] at hread
    obtain ⟨rfl, -⟩ := Prod.mk.inj (Except.ok.inj hread)
    rfl
  · obtain ⟨u, hskip, hu⟩ := hr.skipWs_items hitems (0x5d :: w₂)
    rw [hskip, headersBody] at hread
    exact (hr.headersLoop hu hread).1

end

end HeaderReader

/-! ### The two readers -/

end Ducknng
