import Mathlib.Data.List.Nodup
import Mathlib.Tactic.Lemma

/-!
# Boards

Cells of a board that begins at zero, and things that stand on different cells of it.
-/

namespace Microworlds.Proofs

variable {α : Type} {width height x y : Int64} {cell : Int64 × Int64} {cells kept : List (Int64 × Int64)}

/-- A cell of the board, by its column and its row. -/
structure Within (width height : Int64) (cell : Int64 × Int64) : Prop where
  left : 0 ≤ cell.1
  right : cell.1 < width
  top : 0 ≤ cell.2
  bottom : cell.2 < height

/-- Cells of the board, none of them twice. -/
structure Layout (width height : Int64) (cells : List (Int64 × Int64)) : Prop where
  inside : ∀ cell ∈ cells, Within width height cell
  distinct : cells.Nodup

lemma layout_nil : Layout width height [] := ⟨nofun, .nil⟩

lemma Layout.add (h : Layout width height cells) (hcell : Within width height cell)
    (hfree : cell ∉ cells) : Layout width height (cells ++ [cell]) where
  inside := List.forall_mem_append.mpr ⟨h.inside, List.forall_mem_singleton.mpr hcell⟩
  distinct := List.nodup_append_comm.mp (List.nodup_cons.mpr ⟨hfree, h.distinct⟩)

lemma Layout.sublist (h : Layout width height cells) (hkept : kept.Sublist cells) :
    Layout width height kept where
  inside cell hcell := h.inside cell (hkept.subset hcell)
  distinct := h.distinct.sublist hkept

lemma not_mem_of_any {things : List α} {place : α → Int64 × Int64}
    (h : (things.any fun a => (place a).1 == x && (place a).2 == y) = false) :
    (x, y) ∉ things.map place := by
  intro hmem
  obtain ⟨a, ha, hplace⟩ := List.mem_map.mp hmem
  have hnot := List.any_eq_false.mp h a ha
  simp [hplace] at hnot

end Microworlds.Proofs
