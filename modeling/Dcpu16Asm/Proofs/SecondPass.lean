import Dcpu16Asm.Proofs.FirstPass

/-!
The second pass of assembly in closed form. The pass walks the references in order of
position and writes the address of each one's label over its word, and stops at the
first reference whose label has no address. Over the words of a list of cells, written
after any words whatever, it therefore reports the first label that the cells refer to
and the symbol table lacks, and otherwise leaves every cell's word with its reference
resolved (`foldlM_patchOne_fixupsFrom`).
-/
namespace Dcpu16Asm

/-- The word of a cell once its reference, if it has one, is resolved through `addr`.
A label without an address gives 0; that case only arises where assembly fails. -/
def Cell.resolve (addr : String → Option Nat) (c : Cell) : Nat :=
  match c.ref with
  | some l => (addr l).getD 0
  | none => c.word

namespace Assembly.Layout

theorem toArray_set!_append (pre rest : List Nat) (w a : Nat) :
    (pre ++ w :: rest).toArray.set! pre.length a = (pre ++ [a] ++ rest).toArray := by
  apply Array.toList_inj.mp
  simp [List.set_append_right]

/-- The second pass over the references of `cs`, whose words follow the words `pre`. -/
theorem foldlM_patchOne_fixupsFrom (symbols : SymbolTable) (pre : List Nat)
    (cs : List Cell) :
    (Cell.fixupsFrom pre.length cs).foldlM (patchOne symbols) (pre ++ cs.map Cell.word).toArray =
      match (cs.filterMap Cell.ref).find? (fun l => (symbols.lookup l).isNone) with
      | some l => .error (.undefinedLabel l)
      | none => .ok (pre ++ cs.map (Cell.resolve (symbols.lookup ·))).toArray := by
  induction cs generalizing pre with
  | nil => simp [Cell.fixupsFrom]; rfl
  | cons c cs ih =>
    have hshift : ∀ w, (pre ++ [w]).length = pre.length + 1 ∧
        ∀ ws : List Nat, pre ++ [w] ++ ws = pre ++ w :: ws := by
      intro w
      simp
    cases hc : c.ref with
    | none =>
      have hword : Cell.resolve (symbols.lookup ·) c = c.word := by simp [Cell.resolve, hc]
      have h := ih (pre ++ [c.word])
      rw [(hshift c.word).1, (hshift c.word).2, (hshift c.word).2] at h
      simpa only [Cell.fixupsFrom, hc, List.filterMap_cons_none hc, List.map_cons, hword] using h
    | some l =>
      rw [List.filterMap_cons_some hc, List.find?_cons]
      simp only [Cell.fixupsFrom, hc, List.foldlM_cons, List.map_cons, patchOne]
      cases hl : symbols.lookup l with
      | none => rfl
      | some a =>
        have hword : Cell.resolve (symbols.lookup ·) c = a := by simp [Cell.resolve, hc, hl]
        have h := ih (pre ++ [a])
        rw [(hshift a).1, (hshift a).2, (hshift a).2] at h
        simp only [Option.isNone_some, toArray_set!_append, hword, (hshift a).2]
        exact h

end Assembly.Layout

end Dcpu16Asm
