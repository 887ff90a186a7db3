import TableProfile.Proofs.ColumnRun

/-!
# The turn into free text

A column that turns into free text has counted its first cells as values
and counts the words of the later ones. The words of the first cells are
recovered from the sheet of values, in which a repeated value carries a
weight, different values share words, and blank cells are values without
words.

That the turn loses and invents nothing is a statement about the sheet: it
is the one that counting the words of every cell, from the first one on,
would have made. The order in which the values are taken apart is free.
-/

namespace TableProfile

namespace ColumnProfile

open TallySheet

variable {p : ColumnProfile} {cells : List String}

/-- **A column of text that discarded nothing has the words of all its
cells.** Its sheet is the one that counts the words of each cell, from the
first one on: every word has its number of occurrences, and nothing else is
held. Any order of the entries takes a sheet of values apart into the same
words. -/
theorem values_observeAll_of_isText {name : String} {declared : Option String}
    {settings : ProfileLimits} {seed : UInt64}
    (started : start name declared settings seed = .ok p)
    (text : (p.observeAll cells).isText = true) (lossless : p.DiscardsNothing cells) :
    (p.observeAll cells).values = ({} : TallySheet).addAll (cells.flatMap cellWords)
      ∧ (∀ w, (p.observeAll cells).values.count w = (cells.flatMap cellWords).count w)
      ∧ (∀ w, (p.observeAll cells).values.holds w = true ↔ w ∈ cells.flatMap cellWords)
      ∧ ∀ (sheet : TallySheet) (order : List Tally), order.Perm sheet.entries →
          order.foldl addWords {} = tokenize sheet := by
  have fresh := isFresh_of_start started
  have hwords : (p.observeAll cells).counting = .words := eq_of_beq text
  have htally := isTallyOf_observeAll cells fresh lossless
  rw [hwords] at htally
  refine ⟨?_, htally.count_eq, htally.holds_iff, fun sheet order h => foldl_addWords_perm {} h⟩
  -- the words counted from the first cell on have the same tally
  refine htally.ext (isTallyOf_empty.addAll (cells.flatMap cellWords)) ?_
  rw [hasDiscarded_observeAll cells fresh lossless, hasDiscarded_addAll]

/-- Two cells are enough to see the turn: the first is counted as a value,
the second is the checkpoint. -/
theorem values_observeAll_two_cells :
    let settings : ProfileLimits := { checkpoint := 2, minAverageLength := 1 }
    let p : ColumnProfile := { name := "note", declared := none, settings }
    let cells := ["Ab ab", " "]
    start "note" none settings 0 = .ok p ∧ (p.observeAll cells).isText = true
      ∧ p.DiscardsNothing cells
      ∧ (p.observeAll cells).values = ({} : TallySheet).addAll (cells.flatMap cellWords) := by
  intro settings p cells
  have started : start "note" none settings 0 = .ok p := rfl
  have text : (p.observeAll cells).isText = true := by decide +kernel
  have lossless : p.DiscardsNothing cells :=
    (discardedEarly_observeAll cells (isFresh_of_start started)).mp (by decide +kernel)
  exact ⟨started, text, lossless, (values_observeAll_of_isText started text lossless).1⟩

end ColumnProfile

end TableProfile
