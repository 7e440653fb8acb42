import OracleGuard.Cbor.Head

/-!
Well-formed CBOR: the bytes of one data item, with every announced length kept
and every indefinite item closed by a break of its own.

* `WellFormed.eq_head`: a well-formed item that starts with the head of an
  unsigned number is that head.
-/

namespace Cbor

open Wire

/-- An announced length is the actual one. -/
def Opening.Announces : Opening → Nat → Prop
  | definite count, n => count.value = n
  | indefinite, _ => True

instance (opening : Opening) (n : Nat) : Decidable (opening.Announces n) := by
  cases opening <;> unfold Opening.Announces <;> infer_instance

inductive WellFormed : Bytes → Prop
  | unsigned (arg : Arg) : WellFormed (head .unsigned arg)
  | negative (arg : Arg) : WellFormed (head .negative arg)
  | string {major : Major} (hmajor : major = .bytes ∨ major = .text) {count : Arg}
      {content : Bytes} (hlength : count.value = content.length) :
      WellFormed (head major count ++ content)
  | chunked {major : Major} (hmajor : major = .bytes ∨ major = .text)
      {chunks : List (Arg × Bytes)} (hlength : ∀ c ∈ chunks, c.1.value = c.2.length) :
      WellFormed (Opening.indefinite.enclose major
        (chunks.flatMap fun c => head major c.1 ++ c.2))
  | array {opening : Opening} {items : List Bytes} (hlength : opening.Announces items.length)
      (hitems : ∀ item ∈ items, WellFormed item) :
      WellFormed (opening.enclose .array items.flatten)
  | map {opening : Opening} {entries : List (Bytes × Bytes)}
      (hlength : opening.Announces entries.length) (hkeys : ∀ e ∈ entries, WellFormed e.1)
      (hvalues : ∀ e ∈ entries, WellFormed e.2) :
      WellFormed (opening.enclose .map (entries.flatMap fun e => e.1 ++ e.2))
  | tag (arg : Arg) {content : Bytes} (hcontent : WellFormed content) :
      WellFormed (head .tag arg ++ content)
  | simple {arg : Arg} (hsimple : arg.info = 24 → 32 ≤ arg.value) :
      WellFormed (head .simple arg)

theorem WellFormed.eq_head {item : Bytes} (hitem : WellFormed item) {arg : Arg}
    {rest rest' : Bytes} (h : item ++ rest = head .unsigned arg ++ rest') :
    item = head .unsigned arg ∧ rest = rest' := by
  cases hitem with
  | unsigned arg' =>
    obtain ⟨-, rfl, hrest⟩ := head_append_inj h
    exact ⟨rfl, hrest⟩
  | negative arg' => cases (head_append_inj h).1
  | string hmajor _ =>
    rw [List.append_assoc] at h
    cases (head_append_inj h).1
    cases hmajor <;> contradiction
  | chunked hmajor _ =>
    rw [Opening.enclose, List.append_assoc, ← Opening.head_definite] at h
    cases (Opening.head_append_inj h).1
    cases hmajor <;> contradiction
  | array _ _ =>
    rw [Opening.enclose, List.append_assoc, ← Opening.head_definite] at h
    cases (Opening.head_append_inj h).1
  | map _ _ _ =>
    rw [Opening.enclose, List.append_assoc, ← Opening.head_definite] at h
    cases (Opening.head_append_inj h).1
  | tag _ _ =>
    rw [List.append_assoc] at h
    cases (head_append_inj h).1
  | simple _ => cases (head_append_inj h).1

theorem WellFormed.singleton {opening : Opening} (hone : opening.Announces 1) {item : Bytes}
    (hitem : WellFormed item) : WellFormed (opening.enclose .array item) := by
  have hitems : ∀ x ∈ [item], WellFormed x := by simpa using hitem
  have h := WellFormed.array hone hitems
  rwa [List.flatten_cons, List.flatten_nil, List.append_nil] at h

end Cbor
