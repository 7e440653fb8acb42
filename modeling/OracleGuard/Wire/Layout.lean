import OracleGuard.Wire.Primitives

/-!
Layouts describe where the numbers of a message stand, without its values.
`Layout.scan` walks a byte string by its layout and fails at the first number
that is not in its shortest form, so `Shortest` is a condition on bytes alone.

`HasLayout.reproducible`: a self-delimiting codec that follows a layout writes a
value it read from `b` back as `b` exactly when `b` is shortest; otherwise it
writes fewer bytes (`Follows`).
-/

namespace Wire

inductive Layout where
  | raw (n : Nat)
  | number
  | seq (first second : Layout)
  | tagged (body : Nat → Layout)

namespace Layout

/-- Skip one item whose numbers are all in their shortest form. -/
def scan : Layout → Bytes → Option Bytes
  | raw n, b => if n ≤ b.length then some (b.drop n) else none
  | number, b => (shortVarint b).map (·.2)
  | seq l m, b => (l.scan b).bind m.scan
  | tagged body, b => (shortVarint b).bind fun (tag, rest) => (body tag).scan rest

/-- Every number of the message is in its shortest form. -/
def Shortest (l : Layout) (b : Bytes) : Prop := (l.scan b).isSome

instance (l : Layout) (b : Bytes) : Decidable (l.Shortest b) :=
  inferInstanceAs (Decidable ((l.scan b).isSome = true))

end Layout

namespace Codec

variable {α β ι ε δ : Type}

/-- A value read from `b` is written back as the same bytes where the scan
succeeds, and in fewer bytes where it fails. -/
def Follows (c : Codec α) (l : Layout) : Prop :=
  ∀ b a r e, c.decode b = some (a, r) → c.encode a = some e →
    (l.scan b = some r ∧ e ++ r = b) ∨ (l.scan b = none ∧ (e ++ r).length < b.length)

/-- The codec reads and writes one number, the image of its value under `v`. -/
def Numbers (c : Codec α) (v : α → Nat) : Prop :=
  ∀ b a r e, c.decode b = some (a, r) → c.encode a = some e →
    (shortVarint b = some (v a, r) ∧ e ++ r = b) ∨
      (shortVarint b = none ∧ (e ++ r).length < b.length)

theorem Numbers.follows {c : Codec α} {v : α → Nat} (hc : c.Numbers v) :
    c.Follows .number := by
  intro b a r e hd he
  rcases hc b a r e hd he with ⟨hs, hb⟩ | ⟨hs, hlen⟩
  · exact .inl ⟨by simp [Layout.scan, hs], hb⟩
  · exact .inr ⟨by simp [Layout.scan, hs], hlen⟩

theorem Numbers.iso {c : Codec α} {v : α → Nat} (hc : c.Numbers v) (f : α ≃ β) :
    (c.iso f).Numbers (v ∘ f.symm) :=
  fun b x r e hd he => hc b (f.symm x) r e ((iso_decode c f b x r).mp hd) he

theorem Follows.iso {c : Codec α} {l : Layout} (hc : c.Follows l) (f : α ≃ β) :
    (c.iso f).Follows l :=
  fun b x r e hd he => hc b (f.symm x) r e ((iso_decode c f b x r).mp hd) he

theorem Numbers.index {c : Codec UInt32} (hc : c.Numbers UInt32.toNat) (n : Nat) :
    (c.index n).Numbers Fin.val := by
  intro b i r e hd he
  obtain ⟨t, ht, hi⟩ := (index_decode c n b i r).mp hd
  have ht' : UInt32.ofNat i = t := by rw [← hi, UInt32.ofNat_toNat]
  have he' : c.encode t = some e := by rw [← ht']; exact he
  simpa [hi] using hc b t r e ht he'

/-- Rewriting two items in a row: the bytes come back only if both items are in
their shortest form, and one longer item makes the whole longer. -/
theorem rewrite_append {b p q k r : Bytes} {A A' B B' : Prop}
    (h : (A ∧ p ++ k = b) ∨ (B ∧ (p ++ k).length < b.length))
    (h' : (A' ∧ q ++ r = k) ∨ (B' ∧ (q ++ r).length < k.length)) :
    ((A ∧ A') ∧ p ++ q ++ r = b) ∨ ((B ∨ (A ∧ B')) ∧ (p ++ q ++ r).length < b.length) := by
  rcases h with ⟨ha, rfl⟩ | ⟨hb, hlen⟩ <;> rcases h' with ⟨ha', rfl⟩ | ⟨hb', hlen'⟩
  · exact .inl ⟨⟨ha, ha'⟩, List.append_assoc ..⟩
  · refine .inr ⟨.inr ⟨ha, hb'⟩, ?_⟩
    simp only [List.length_append] at hlen' ⊢
    omega
  · exact .inr ⟨.inl hb, by simpa using hlen⟩
  · refine .inr ⟨.inl hb, ?_⟩
    simp only [List.length_append] at hlen hlen' ⊢
    omega

theorem scan_bind {σ : Type} {b p q k r : Bytes} {x : Option σ} {y : σ} {f : σ → Option Bytes}
    (h : (x = some y ∧ p ++ k = b) ∨ (x = none ∧ (p ++ k).length < b.length))
    (h' : (f y = some r ∧ q ++ r = k) ∨ (f y = none ∧ (q ++ r).length < k.length)) :
    (x.bind f = some r ∧ p ++ q ++ r = b) ∨
      (x.bind f = none ∧ (p ++ q ++ r).length < b.length) := by
  rcases rewrite_append h h' with ⟨⟨hx, hf⟩, hb⟩ | ⟨hx, hlen⟩
  · exact .inl ⟨by rw [hx, Option.bind_some, hf], hb⟩
  · refine .inr ⟨?_, hlen⟩
    rcases hx with hx | ⟨hx, hf⟩
    · rw [hx, Option.bind_none]
    · rw [hx, Option.bind_some, hf]

/-- The tag is read as a number, so the scan picks the payload's layout by the
same number that the codec picks the payload's codec by. -/
theorem Numbers.tagged {payload : ι → Type} {c : Codec ι} {d : (i : ι) → Codec (payload i)}
    {v : ι → Nat} {body : Nat → Layout} (hc : c.Numbers v)
    (hd : ∀ i, (d i).Follows (body (v i))) : (c.tagged d).Follows (.tagged body) := by
  intro b x r e hdec henc
  obtain ⟨m, hcm, hdm⟩ := (tagged_decode c d b x r).mp hdec
  obtain ⟨p, q, hp, hq, rfl⟩ := (tagged_encode c d x e).mp henc
  exact scan_bind (hc b x.1 m p hcm hp) (hd x.1 m x.2 r q hdm hq)

theorem Follows.pair {c : Codec α} {d : Codec β} {l m : Layout} (hc : c.Follows l)
    (hd : d.Follows m) : (c.pair d).Follows (.seq l m) := by
  apply Follows.iso
  intro b x r e hdec henc
  obtain ⟨k, hck, hdk⟩ := (tagged_decode c (fun _ => d) b x r).mp hdec
  obtain ⟨p, q, hp, hq, rfl⟩ := (tagged_encode c (fun _ => d) x e).mp henc
  exact scan_bind (hc b x.1 k p hck hp) (hd k x.2 r q hdk hq)

/-! ## Codecs with a layout -/

structure HasLayout (c : Codec α) (l : Layout) : Prop where
  selfDelimiting : c.SelfDelimiting
  follows : c.Follows l

theorem HasLayout.iso {c : Codec α} {l : Layout} (hc : c.HasLayout l) (f : α ≃ β) :
    (c.iso f).HasLayout l :=
  ⟨iso_selfDelimiting hc.selfDelimiting f, hc.follows.iso f⟩

theorem HasLayout.pair {c : Codec α} {d : Codec β} {l m : Layout} (hc : c.HasLayout l)
    (hd : d.HasLayout m) : (c.pair d).HasLayout (.seq l m) :=
  ⟨pair_selfDelimiting hc.selfDelimiting hd.selfDelimiting, hc.follows.pair hd.follows⟩

theorem HasLayout.index {c : Codec UInt32} (hc : c.SelfDelimiting)
    (hv : c.Numbers UInt32.toNat) {n : Nat} (hn : n ≤ 2 ^ 32) :
    (c.index n).HasLayout .number :=
  ⟨index_selfDelimiting hc hn, (hv.index n).follows⟩

/-- A sum of `n` variants, each with its own layout. -/
theorem HasLayout.variants {n : Nat} {payload : Fin n → Type} {c : Codec UInt32}
    {d : (i : Fin n) → Codec (payload i)} {body : Nat → Layout} (hc : c.SelfDelimiting)
    (hv : c.Numbers UInt32.toNat) (hn : n ≤ 2 ^ 32)
    (hd : ∀ i, (d i).HasLayout (body i)) :
    ((c.index n).tagged d).HasLayout (.tagged body) :=
  ⟨tagged_selfDelimiting (index_selfDelimiting hc hn) fun i => (hd i).selfDelimiting,
    (hv.index n).tagged fun i => (hd i).follows⟩

/-- A message that is read is written back as it was exactly when it is
shortest, so a value has one shortest message. -/
def Reproducible (encode : α → Except ε Bytes) (decode : Bytes → Except δ α) (l : Layout) : Prop :=
  ∀ b a, decode b = .ok a →
    (encode a = .ok b ↔ l.Shortest b) ∧
    (∀ c, decode c = .ok a → l.Shortest b → l.Shortest c → b = c)

theorem HasLayout.rewrite {c : Codec α} {l : Layout} (hc : c.HasLayout l) (failure : ε)
    (malformed trailing : δ) {b : Bytes} {a : α}
    (h : c.fromBytes malformed trailing b = .ok a) :
    c.toVec failure a = .ok b ↔ l.Shortest b := by
  rw [fromBytes_eq_ok] at h
  obtain ⟨e, he, -⟩ := hc.selfDelimiting.lawful a []
  rw [toVec_eq_ok, he, Option.some.injEq]
  unfold Layout.Shortest
  rcases hc.follows b a [] e h he with ⟨hs, hb⟩ | ⟨hs, hlen⟩
  · rw [List.append_nil] at hb
    simp [hs, hb]
  · have hne : e ≠ b := by
      rintro rfl
      simp at hlen
    simp [hs, hne]

theorem HasLayout.reproducible {c : Codec α} {l : Layout} (hc : c.HasLayout l) (failure : ε)
    (malformed trailing : δ) :
    Reproducible (c.toVec failure) (c.fromBytes malformed trailing) l := by
  intro b a hb
  have hrewrite := hc.rewrite failure malformed trailing hb
  refine ⟨hrewrite, fun b' hb' hshort hshort' => ?_⟩
  have hsame := (hc.rewrite failure malformed trailing hb').mpr hshort'
  rw [hrewrite.mpr hshort] at hsame
  exact Except.ok.inj hsame

end Codec

/-! ## The primitive codecs -/

theorem byte_follows : byte.Follows (.raw 1) := by
  intro b a r e hd he
  cases b with
  | nil => cases hd
  | cons x xs =>
    cases hd
    cases he
    exact .inl ⟨by simp [Layout.scan], rfl⟩

theorem bytes_follows (n : Nat) : (bytes n).Follows (.raw n) := by
  intro b v r e hd he
  rw [bytes_decode] at hd
  cases he
  left
  subst hd
  exact ⟨by simp [Layout.scan], rfl⟩

theorem varint_numbers (k last : Nat) : (varint k last).Numbers Fin.val := by
  intro b v r e hd he
  rw [varint_decode] at hd
  cases he
  exact takeVarint_shortest hd

theorem u32_numbers : u32.Numbers UInt32.toNat := (varint_numbers 4 15).iso _

theorem byte_hasLayout : byte.HasLayout (.raw 1) := ⟨byte_selfDelimiting, byte_follows⟩

theorem bytes_hasLayout (n : Nat) : (bytes n).HasLayout (.raw n) :=
  ⟨bytes_selfDelimiting n, bytes_follows n⟩

theorem u16_hasLayout : u16.HasLayout .number :=
  ⟨u16_selfDelimiting, ((varint_numbers 2 3).iso _).follows⟩

theorem u64_hasLayout : u64.HasLayout .number :=
  ⟨u64_selfDelimiting, ((varint_numbers 9 1).iso _).follows⟩

end Wire
