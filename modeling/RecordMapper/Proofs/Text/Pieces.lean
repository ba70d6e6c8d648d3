import Mathlib.Data.List.Infix
import RecordMapper.Text.Pieces

/-!
The pieces of a text around a mark. Each occurrence of the mark that counts is the first one behind the one
before, which leaves a single way to cut a text.
-/
namespace RecordMapper.Text

/-- A text cut into pieces. A piece ends where the mark occurs first, and the text behind the mark is cut in
the same way. -/
inductive CutAt (mark : List Char) : List Char → List (List Char) → Prop
  | last {cs : List Char} : ¬mark <:+: cs → CutAt mark cs [cs]
  | next {piece rest : List Char} {ps : List (List Char)} :
      (∀ front back, piece ++ mark ++ rest = front ++ mark ++ back → piece.length ≤ front.length) →
      CutAt mark rest ps → CutAt mark (piece ++ mark ++ rest) (piece :: ps)

section

variable {mark cs : List Char} {ps qs : List (List Char)}

theorem CutAt.unique (h : CutAt mark cs ps) (h' : CutAt mark cs qs) : ps = qs := by
  induction h generalizing qs with
  | @last cs absent =>
    cases h' with
    | last => rfl
    | next => exact absurd ⟨_, _, rfl⟩ absent
  | @next piece rest ps first _ ih =>
    generalize same : piece ++ mark ++ rest = text at h'
    cases h' with
    | last absent => exact absurd ⟨_, _, same⟩ absent
    | @next piece' rest' qs first' cut' =>
      have lengths : piece.length = piece'.length :=
        Nat.le_antisymm (first _ _ same) (first' _ _ same.symm)
      rw [List.append_assoc, List.append_assoc] at same
      obtain ⟨rfl, behind⟩ := List.append_inj same lengths
      obtain rfl : rest = rest' := List.append_cancel_left behind
      rw [ih cut']

theorem CutAt.cons {c : Char} (h : CutAt mark cs ps) (other : ¬mark <+: c :: cs) :
    CutAt mark (c :: cs) (ps.modifyHead (c :: ·)) := by
  cases h with
  | last absent =>
    refine .last ?_
    rw [List.infix_cons_iff, not_or]
    exact ⟨other, absent⟩
  | @next piece rest ps first cut =>
    refine @CutAt.next mark (c :: piece) rest ps ?_ cut
    intro front back same
    cases front with
    | nil => exact absurd ⟨back, same.symm⟩ other
    | cons d front => exact Nat.succ_le_succ (first front back (List.cons.inj same).2)

theorem piecesFrom_eq_drop (mark : List Char) (skip : Nat) (cs : List Char) :
    piecesFrom mark skip cs = piecesFrom mark 0 (cs.drop skip) := by
  induction cs generalizing skip with
  | nil => cases skip <;> rfl
  | cons c cs ih =>
    cases skip with
    | zero => rfl
    | succ skip => exact ih skip

theorem piecesFrom_of_start {rest : List Char} (nonempty : mark ≠ []) :
    piecesFrom mark 0 (mark ++ rest) = [] :: piecesFrom mark 0 rest := by
  cases mark with
  | nil => exact absurd rfl nonempty
  | cons m mark =>
    have starts : (m :: mark).isPrefixOf (m :: (mark ++ rest)) := by
      rw [List.isPrefixOf_iff_prefix]
      exact List.prefix_append ..
    rw [List.cons_append, piecesFrom, if_pos starts, piecesFrom_eq_drop]
    simp

theorem piecesFrom_of_apart {c : Char} (other : ¬mark <+: c :: cs) :
    piecesFrom mark 0 (c :: cs) = (piecesFrom mark 0 cs).modifyHead (c :: ·) := by
  rw [piecesFrom, if_neg (by rwa [List.isPrefixOf_iff_prefix])]

private theorem cutAt_piecesFrom (nonempty : mark ≠ []) (cs : List Char) :
    CutAt mark cs (piecesFrom mark 0 cs) := by
  induction n : cs.length using Nat.strong_induction_on generalizing cs with
  | _ n ih =>
  subst n
  cases cs with
  | nil => exact .last (by simpa using nonempty)
  | cons c cs =>
    by_cases starts : mark <+: c :: cs
    · obtain ⟨rest, whole⟩ := starts
      have shorter : rest.length < (c :: cs).length := by
        rw [← whole, List.length_append]
        exact Nat.lt_add_of_pos_left (List.length_pos_iff.2 nonempty)
      rw [← whole, piecesFrom_of_start nonempty]
      exact @CutAt.next mark [] rest _ (fun _ _ _ => Nat.zero_le _) (ih _ shorter rest rfl)
    · rw [piecesFrom_of_apart starts]
      exact (ih _ (Nat.lt_succ_self _) cs rfl).cons starts

theorem piecesFrom_append {front : List Char} (plain : ∀ c ∈ front, mark.head? ≠ some c)
    (nonempty : mark ≠ []) :
    piecesFrom mark 0 (front ++ cs) = (piecesFrom mark 0 cs).modifyHead (front ++ ·) := by
  induction front with
  | nil =>
    rw [List.nil_append]
    cases piecesFrom mark 0 cs <;> rfl
  | cons c front ih =>
    rw [List.forall_mem_cons] at plain
    have other : ¬mark <+: c :: (front ++ cs) := by
      intro starts
      cases mark with
      | nil => exact nonempty rfl
      | cons m mark => exact plain.1 (congrArg some (List.cons_prefix_cons.1 starts).1)
    rw [List.cons_append, piecesFrom_of_apart other, ih plain.2, List.modifyHead_modifyHead]
    rfl

private theorem intercalate_modifyHead (between front : List Char) (h : ps ≠ []) :
    between.intercalate (ps.modifyHead (front ++ ·)) = front ++ between.intercalate ps := by
  cases ps with
  | nil => exact absurd rfl h
  | cons p ps => cases ps <;> simp

theorem count_intercalate {between : List Char} {c : Char} (absent : c ∉ between) (ps : List (List Char)) :
    (between.intercalate ps).count c = ps.flatten.count c := by
  induction ps with
  | nil => rfl
  | cons p ps ih =>
    cases ps with
    | nil => simp
    | cons q ps =>
      rw [List.intercalate_cons_cons, List.count_append, List.count_append, ih,
        List.count_eq_zero_of_not_mem absent, Nat.add_zero, ← List.count_append, ← List.flatten_cons]

end

section

variable {mark : String}

theorem cutAt_iff (nonempty : mark ≠ "") {s : String} {ps : List (List Char)} :
    CutAt mark.toList s.toList ps ↔ ps = pieces mark s := by
  have cut : CutAt mark.toList s.toList (pieces mark s) := cutAt_piecesFrom (by simpa using nonempty) _
  refine ⟨fun h => h.unique cut, ?_⟩
  rintro rfl
  exact cut

theorem substitute_append {front : String} (plain : ∀ c ∈ front.toList, mark.toList.head? ≠ some c)
    (nonempty : mark ≠ "") (replacement s : String) :
    substitute mark replacement (front ++ s) = front ++ substitute mark replacement s := by
  have kept : piecesFrom mark.toList 0 s.toList ≠ [] := piecesFrom_ne_nil _ _ _
  rw [substitute, substitute, pieces, pieces, String.toList_append,
    piecesFrom_append plain (by simpa using nonempty), intercalate_modifyHead _ _ kept,
    String.ofList_append, String.ofList_toList]

end

end RecordMapper.Text
