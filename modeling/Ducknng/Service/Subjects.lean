import Ducknng.Service.Peers
import Mathlib.Data.List.Nodup

namespace Ducknng

open List

/-!
# Execution subjects bound to connections

The runtime keeps a list of connections with the subject that their SQL runs for. A connection
is in the list once.

* `boundSubject` — the subject of a connection; `bindConnection_self`, `unbindConnection_self`
  and their `_other` forms say what becomes of it.
-/

/-- `ducknng_subject_binding`. -/
structure SubjectBinding where
  connectionId : Nat
  subject : CStr
  deriving DecidableEq

open SubjectBinding

/-- The loop that replaces the subject of a connection; `none` when it is not in the list. -/
def replaceBinding (connectionId : Nat) (subject : CStr) :
    List SubjectBinding → Option (List SubjectBinding)
  | [] => none
  | b :: bs =>
    if b.connectionId = connectionId then some (⟨connectionId, subject⟩ :: bs)
    else (replaceBinding connectionId subject bs).map fun bs => b :: bs

/-- `ducknng_runtime_execution_subject_bind_connection`: whether the subject was bound. `copied`
    says whether the text could be copied and `room` whether the list has or gets room for one
    more line. -/
def bindConnection (connectionId : Nat) (subject : Option CStr) (copied room : Bool)
    (bindings : List SubjectBinding) : Bool × List SubjectBinding :=
  match CStr.present subject with
  | none => (false, bindings)
  | some subject =>
    if !copied then (false, bindings)
    else match replaceBinding connectionId subject bindings with
      | some bindings => (true, bindings)
      | none =>
        if !room then (false, bindings) else (true, bindings ++ [⟨connectionId, subject⟩])

/-- `ducknng_runtime_execution_subject_unbind_connection`. -/
def unbindConnection (connectionId : Nat) (bindings : List SubjectBinding) :
    List SubjectBinding :=
  bindings.eraseP fun b => b.connectionId = connectionId

/-- `ducknng_runtime_execution_subject_for_connection_dup`. -/
def subjectForConnection (connectionId : Nat) (copied : Bool) (bindings : List SubjectBinding) :
    Option CStr :=
  match bindings.find? fun b => b.connectionId = connectionId with
  | none => none
  | some b => if copied then some b.subject else none

/-! ### The list -/

/-- No connection is bound twice. -/
def BindingsOk (bindings : List SubjectBinding) : Prop :=
  (bindings.map connectionId).Nodup

section
variable {id id' : Nat} {subject : CStr} {bindings bindings' : List SubjectBinding}

theorem replaceBinding_ids (h : replaceBinding id subject bindings = some bindings') :
    bindings'.map connectionId = bindings.map connectionId := by
  induction bindings generalizing bindings' with
  | nil => cases h
  | cons b bs ih =>
    rw [replaceBinding] at h
    split at h
    · next hid =>
      cases h
      rw [map_cons, map_cons, ← hid]
    · obtain ⟨bs', hbs, rfl⟩ := Option.map_eq_some_iff.1 h
      rw [map_cons, map_cons, ih hbs]

theorem replaceBinding_eq_none :
    replaceBinding id subject bindings = none ↔ id ∉ bindings.map connectionId := by
  induction bindings with
  | nil => simp [replaceBinding]
  | cons b bs ih =>
    rw [replaceBinding, map_cons, mem_cons, not_or]
    split
    · next hid => simp [hid]
    · next hid => simp [ih, Ne.symm hid]

/-- Who is bound after a bind: those that were, and the connection if it says so. -/
theorem mem_bindConnection {text : Option CStr} {copied room : Bool} :
    id' ∈ (bindConnection id text copied room bindings).2.map connectionId →
      id' ∈ bindings.map connectionId ∨
        (id' = id ∧ (bindConnection id text copied room bindings).1 = true) := by
  unfold bindConnection
  split
  · exact .inl
  next subject _ =>
  split
  · exact .inl
  split
  next bindings' hreplace =>
    rw [replaceBinding_ids hreplace]
    exact .inl
  next =>
    split
    · exact .inl
    · intro hmem
      rw [map_append, mem_append] at hmem
      rcases hmem with hmem | hmem
      · exact .inl hmem
      · exact .inr ⟨mem_singleton.1 hmem, rfl⟩

theorem BindingsOk.bind (h : BindingsOk bindings) (id : Nat) (text : Option CStr)
    (copied room : Bool) : BindingsOk (bindConnection id text copied room bindings).2 := by
  unfold bindConnection
  split
  · exact h
  next subject _ =>
  split
  · exact h
  split
  next bindings' hreplace =>
    unfold BindingsOk
    rw [replaceBinding_ids hreplace]
    exact h
  next hnone =>
    split
    · exact h
    · unfold BindingsOk
      rw [map_append]
      refine nodup_append.2 ⟨h, nodup_singleton _, ?_⟩
      rintro a ha b hb rfl
      have hid : a = id := mem_singleton.1 hb
      exact replaceBinding_eq_none.1 hnone (hid ▸ ha)

theorem BindingsOk.unbind (h : BindingsOk bindings) (id : Nat) :
    BindingsOk (unbindConnection id bindings) :=
  h.sublist (eraseP_sublist.map _)

/-- An unbound connection is not in the list any more. -/
theorem BindingsOk.not_mem_unbind (h : BindingsOk bindings) (id : Nat) :
    id ∉ (unbindConnection id bindings).map connectionId := by
  unfold unbindConnection
  induction bindings with
  | nil => exact not_mem_nil
  | cons b bs ih =>
    obtain ⟨hnot, hrest⟩ := nodup_cons.1 h
    by_cases hid : b.connectionId = id
    · rw [eraseP_cons, decide_eq_true hid, ← hid]
      exact hnot
    · rw [eraseP_cons, decide_eq_false hid, cond_false, map_cons, mem_cons, not_or]
      exact ⟨fun heq => hid heq.symm, ih hrest⟩

/-! ### The subject of a connection -/

/-- The subject bound to a connection. -/
def boundSubject (id : Nat) (bindings : List SubjectBinding) : Option CStr :=
  (bindings.find? fun b => b.connectionId = id).map SubjectBinding.subject

theorem subjectForConnection_eq (id : Nat) (copied : Bool) (bindings : List SubjectBinding) :
    subjectForConnection id copied bindings =
      if copied then boundSubject id bindings else none := by
  unfold subjectForConnection boundSubject
  cases bindings.find? fun b => b.connectionId = id with
  | none => simp
  | some b => rfl

theorem boundSubject_eq_none : boundSubject id bindings = none ↔
    id ∉ bindings.map connectionId := by
  unfold boundSubject
  rw [Option.map_eq_none_iff, find?_eq_none]
  simp only [decide_eq_true_eq, mem_map, not_exists, not_and]

theorem boundSubject_cons (b : SubjectBinding) (bs : List SubjectBinding) :
    boundSubject id (b :: bs) =
      if b.connectionId = id then some b.subject else boundSubject id bs := by
  unfold boundSubject
  by_cases hid : b.connectionId = id <;> simp [hid]

theorem boundSubject_append (bs cs : List SubjectBinding) :
    boundSubject id (bs ++ cs) = (boundSubject id bs).or (boundSubject id cs) := by
  unfold boundSubject
  rw [find?_append]
  cases bs.find? fun b => b.connectionId = id <;> rfl

theorem replaceBinding_other (hne : id' ≠ id)
    (h : replaceBinding id subject bindings = some bindings') :
    boundSubject id' bindings' = boundSubject id' bindings := by
  induction bindings generalizing bindings' with
  | nil => cases h
  | cons b bs ih =>
    rw [replaceBinding] at h
    split at h
    · next hid =>
      cases h
      rw [boundSubject_cons, boundSubject_cons, if_neg hne.symm, if_neg (hid ▸ hne.symm)]
    · obtain ⟨bs', hbs, rfl⟩ := Option.map_eq_some_iff.1 h
      rw [boundSubject_cons, boundSubject_cons, ih hbs]

/-- A bind leaves the subjects of other connections. -/
theorem bindConnection_other (hne : id' ≠ id) (text : Option CStr) (copied room : Bool)
    (bindings : List SubjectBinding) :
    boundSubject id' (bindConnection id text copied room bindings).2 =
      boundSubject id' bindings := by
  unfold bindConnection
  split
  · rfl
  next subject _ =>
  split
  · rfl
  split
  next bindings' hreplace => exact replaceBinding_other hne hreplace
  next =>
    split
    · rfl
    · show boundSubject id' (bindings ++ [⟨id, subject⟩]) = _
      rw [boundSubject_append, boundSubject_cons, if_neg hne.symm]
      exact Option.or_none

/-- A connection without a subject is bound when there is a subject to bind, and memory. -/
theorem bindConnection_self (hnone : boundSubject id bindings = none) (text : Option CStr)
    (copied room : Bool) :
    boundSubject id (bindConnection id text copied room bindings).2 =
        (if copied && room then CStr.present text else none) ∧
      (bindConnection id text copied room bindings).1 =
        ((CStr.present text).isSome && (copied && room)) := by
  have hreplace : ∀ subject, replaceBinding id subject bindings = none := fun _ =>
    replaceBinding_eq_none.2 (boundSubject_eq_none.1 hnone)
  unfold bindConnection
  cases CStr.present text with
  | none => simp [hnone]
  | some subject =>
    dsimp only
    rw [hreplace subject]
    cases copied <;> cases room <;> simp [hnone, boundSubject_append, boundSubject_cons]

/-- An unbind leaves the subjects of other connections. -/
theorem unbindConnection_other (hne : id' ≠ id) (bindings : List SubjectBinding) :
    boundSubject id' (unbindConnection id bindings) = boundSubject id' bindings := by
  unfold unbindConnection
  induction bindings with
  | nil => rfl
  | cons b bs ih =>
    by_cases hid : b.connectionId = id
    · rw [eraseP_cons, decide_eq_true hid, cond_true, boundSubject_cons, if_neg (hid ▸ hne.symm)]
    · rw [eraseP_cons, decide_eq_false hid, cond_false, boundSubject_cons, boundSubject_cons, ih]

theorem unbindConnection_self (h : BindingsOk bindings) (id : Nat) :
    boundSubject id (unbindConnection id bindings) = none :=
  boundSubject_eq_none.2 (h.not_mem_unbind id)

end

end Ducknng
