import CasefileHub.Proofs.Renaming.Calls
import Mathlib.Data.List.Nodup
/-!
# Renamings of numbers

Different things can be renamed to different others, and whatever is on neither side keeps its name.
So there is a renaming that maps rows of numbers to other rows, if no number is in two of them:

    xs, ys without duplicates, of one length → a permutation maps xs to ys   (exists_perm_map_eq)
    rows without common numbers, on either side → a renaming shifts them all      (exists_shifts)
-/

namespace CasefileHub

/-- A permutation that maps a list to another, and moves nothing else. -/
theorem exists_perm_map_eq {α : Type} [DecidableEq α] {xs ys : List α} (hxs : xs.Nodup)
    (hys : ys.Nodup) (hlength : xs.length = ys.length) :
    ∃ σ : Equiv.Perm α, xs.map σ = ys ∧ ∀ a, a ∉ xs → a ∉ ys → σ a = a := by
  induction xs generalizing ys with
  | nil =>
    obtain rfl := List.eq_nil_of_length_eq_zero hlength.symm
    exact ⟨Equiv.refl α, rfl, fun _ _ _ => rfl⟩
  | cons x xs ih =>
    obtain ⟨y, ys, rfl⟩ := List.exists_cons_of_length_eq_add_one hlength.symm
    obtain ⟨hx, hxs⟩ := List.nodup_cons.1 hxs
    obtain ⟨hy, hys⟩ := List.nodup_cons.1 hys
    obtain ⟨σ, rfl, hfix⟩ := ih hxs hys (Nat.succ.inj hlength)
    -- what `x` is mapped to so far changes places with `y`
    refine ⟨σ.trans (Equiv.swap (σ x) y), ?_, fun a ha ha' => ?_⟩
    · rw [List.map_cons, Equiv.trans_apply, Equiv.swap_apply_left]
      refine congrArg (y :: ·) (List.map_congr_left fun a ha => ?_)
      refine Equiv.swap_apply_of_ne_of_ne (fun heq => ?_) fun heq => ?_
      · exact hx (σ.injective heq ▸ ha)
      · exact hy (heq ▸ List.mem_map_of_mem ha)
    · obtain ⟨hax, ha⟩ := not_or.1 (mt List.mem_cons.2 ha)
      obtain ⟨hay, ha'⟩ := not_or.1 (mt List.mem_cons.2 ha')
      have hkeeps := hfix a ha ha'
      rw [Equiv.trans_apply, hkeeps]
      refine Equiv.swap_apply_of_ne_of_ne (fun heq => ?_) hay
      exact hax (σ.injective (hkeeps.trans heq))

/-- Different numbers, from one on and up to another. -/
structure Between (a b : Nat) (numbers : List Nat) : Prop where
  nodup : numbers.Nodup
  bounds : ∀ n ∈ numbers, a ≤ n ∧ n < b

/-- Some numbers in a row, and then others that come after them. -/
theorem Between.range_append {a b m count : Nat} {numbers : List Nat} (ham : a ≤ m)
    (hb : m + count ≤ b) (h : Between (m + count) b numbers) :
    Between a b (List.range' m count ++ numbers) where
  nodup := by
    refine List.nodup_append.2 ⟨List.nodup_range', h.nodup, fun n hn n' hn' heq => ?_⟩
    have hbefore := (List.mem_range'_1.1 hn).2
    have hafter := (h.bounds n' hn').1
    omega
  bounds n hn := by
    rcases List.mem_append.1 hn with hn | hn
    · obtain ⟨hle, hlt⟩ := List.mem_range'_1.1 hn
      omega
    · obtain ⟨hle, hlt⟩ := h.bounds n hn
      omega

namespace Renaming

/-- Some numbers in a row, and as many others. -/
structure Row where
  left : Nat
  right : Nat
  count : Nat

def Row.lefts (row : Row) : List Nat := List.range' row.left row.count

def Row.rights (row : Row) : List Nat := List.range' row.right row.count

theorem eq_of_map_flatMap_eq {α : Type} {f g : Nat → α} {rows : List Row}
    (h : (rows.flatMap Row.lefts).map f = (rows.flatMap Row.rights).map g) :
    ∀ row ∈ rows, ∀ k < row.count, f (row.left + k) = g (row.right + k) := by
  induction rows with
  | nil => simp
  | cons row rows ih =>
    rw [List.flatMap_cons, List.flatMap_cons, List.map_append, List.map_append] at h
    obtain ⟨hrow, hrows⟩ := List.append_inj h (by simp [Row.lefts, Row.rights])
    refine List.forall_mem_cons.2 ⟨fun k hk => ?_, ih hrows⟩
    have hat := congrArg (·[k]?) hrow
    simpa [Row.lefts, Row.rights, List.getElem?_range', hk] using hat

/-- Rows without common numbers are shifted by a renaming, which names nothing else anew. -/
theorem exists_shifts {rows : List Row} (hlefts : (rows.flatMap Row.lefts).Nodup)
    (hrights : (rows.flatMap Row.rights).Nodup) :
    ∃ ρ : Renaming, (∀ row ∈ rows, ρ.Shifts row.left row.right row.count) ∧
      ∀ (kind : RecordKind) id, (∀ n, n ∈ rows.flatMap Row.lefts ∨ n ∈ rows.flatMap Row.rights →
        id ≠ kind.identifier n) → ρ.record kind id = id := by
  have hlength : (rows.flatMap Row.lefts).length = (rows.flatMap Row.rights).length := by
    simp [List.length_flatMap, Row.lefts, Row.rights]
  have hperm (kind : RecordKind) : ∃ σ : Equiv.Perm String,
      (∀ row ∈ rows, ∀ k < row.count,
        σ (kind.identifier (row.left + k)) = kind.identifier (row.right + k)) ∧
      ∀ id, (∀ n, n ∈ rows.flatMap Row.lefts ∨ n ∈ rows.flatMap Row.rights →
        id ≠ kind.identifier n) → σ id = id := by
    obtain ⟨σ, hmap, hfix⟩ := exists_perm_map_eq (hlefts.map kind.identifier_injective)
      (hrights.map kind.identifier_injective) (by rw [List.length_map, List.length_map, hlength])
    rw [List.map_map] at hmap
    refine ⟨σ, eq_of_map_flatMap_eq hmap, fun id hid => hfix id (fun hmem => ?_) fun hmem => ?_⟩
    · obtain ⟨n, hn, rfl⟩ := List.mem_map.1 hmem
      exact hid n (.inl hn) rfl
    · obtain ⟨n, hn, rfl⟩ := List.mem_map.1 hmem
      exact hid n (.inr hn) rfl
  obtain ⟨σ, hσ, hσfix⟩ := hperm .casefile
  obtain ⟨τ, hτ, hτfix⟩ := hperm .toolSession
  refine ⟨⟨σ, τ⟩, fun row hrow kind => ?_, fun kind => ?_⟩
  · cases kind with
    | casefile => exact hσ row hrow
    | toolSession => exact hτ row hrow
  · cases kind with
    | casefile => exact hσfix
    | toolSession => exact hτfix

end Renaming

end CasefileHub
