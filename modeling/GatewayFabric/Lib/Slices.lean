/-
Assignment to an element of a Go slice, `s[i] = a`, which panics when `i`
is not an index of `s`, and a loop that makes one such assignment for each
item it visits, at an index that may read `len(s)`.

Writes at distinct indices commute, so such a loop ends with the same slice
whatever order it visits its items in (`writeAll_perm`): what a `range` loop
over a Go map, whose order is unspecified, needs in order to be
deterministic.
-/
import Mathlib.Data.List.Basic

namespace GatewayFabric.Slices

variable {α β : Type}

/-- `s[i] = a`; none when it panics. -/
def writeAt (s : List α) (i : Int) (a : α) : Option (List α) :=
  if 0 ≤ i ∧ i < s.length then some (s.set i.toNat a) else none

/-- A loop over `items` that assigns each the element `place (len s) b` says. -/
def writeAll (place : Nat → β → Int × α) (items : List β) (s : List α) : Option (List α) :=
  items.foldlM (fun s b => writeAt s (place s.length b).1 (place s.length b).2) s

theorem writeAt_of_lt {s : List α} {i : Int} (a : α) (h0 : 0 ≤ i) (hi : i < s.length) :
    writeAt s i a = some (s.set i.toNat a) := by
  simp [writeAt, h0, hi]

@[simp] theorem writeAll_nil (place : Nat → β → Int × α) (s : List α) : writeAll place [] s = some s := rfl

theorem writeAll_cons (place : Nat → β → Int × α) (b : β) (items : List β) (s : List α) :
    writeAll place (b :: items) s =
      (writeAt s (place s.length b).1 (place s.length b).2).bind (writeAll place items) := rfl

/-- What a loop over items of distinct indices, all in range, leaves does
not depend on the order of the items. -/
theorem writeAll_perm {place : Nat → β → Int × α} {items items' : List β} (hp : items.Perm items') :
    ∀ {s : List α}, (items.map fun b => (place s.length b).1).Nodup →
      (∀ b ∈ items, 0 ≤ (place s.length b).1 ∧ (place s.length b).1 < s.length) →
      writeAll place items s = writeAll place items' s := by
  induction hp with
  | nil => intro s _ _; rfl
  | cons b _ ih =>
    intro s hnd hin
    obtain ⟨h0, hi⟩ := hin b List.mem_cons_self
    rw [writeAll_cons, writeAll_cons, writeAt_of_lt _ h0 hi, Option.bind_some, Option.bind_some]
    have hlen : (s.set (place s.length b).1.toNat (place s.length b).2).length = s.length := List.length_set
    rw [List.map_cons, List.nodup_cons] at hnd
    exact ih (by rw [hlen]; exact hnd.2) (fun c hc => by rw [hlen]; exact hin c (List.mem_cons_of_mem b hc))
  | swap b c _ =>
    intro s hnd hin
    obtain ⟨hc0, hci⟩ := hin c List.mem_cons_self
    obtain ⟨hb0, hbi⟩ := hin b (List.mem_cons_of_mem c List.mem_cons_self)
    have hne : (place s.length c).1 ≠ (place s.length b).1 := by
      intro h
      simp [h] at hnd
    have hne' : (place s.length c).1.toNat ≠ (place s.length b).1.toNat := by omega
    simp only [writeAll_cons, List.length_set, writeAt_of_lt _ hb0 hbi, writeAt_of_lt _ hc0 hci,
      Option.bind_some]
    rw [writeAt_of_lt _ hb0 (by simpa using hbi), writeAt_of_lt _ hc0 (by simpa using hci), Option.bind_some,
      Option.bind_some, List.set_comm _ _ hne']
  | trans hp₁ _ ih₁ ih₂ =>
    intro s hnd hin
    have hnd' := (hp₁.map fun b => (place s.length b).1).nodup_iff.1 hnd
    rw [ih₁ hnd hin, ih₂ hnd' (fun b hb => hin b (hp₁.mem_iff.2 hb))]

end GatewayFabric.Slices
