import Mathlib.Algebra.BigOperators.Group.Finset.Basic
import Mathlib.Algebra.BigOperators.Group.Finset.Piecewise
import Mathlib.Algebra.Order.BigOperators.Group.Finset
import Mathlib.Data.Nat.ModEq
import TableProfile.Proofs.Trims

/-!
# The books of a sheet

A sheet is edited: values are counted, once or with a weight that may be anything a
machine word holds, and it is trimmed. To each edit it replies, with whether the value
was new to it or with how many entries were discarded. A value that was discarded may be
given again, and is new again, so that the replies do not tell how many values there
were. They do tell what is in the sheet. What came in as new and was not discarded is
held, and what was given is in the counts that are held or in those that were discarded
(`Books.IsBalanced`).

Counts are machine words, and a sum can be too large for one. So the books balance up to
multiples of some number. If every sum was right the number is zero, and they balance
exactly: when an addition that is too large stops the program, every sum that was made is
right, and when all that was given fits into a word, so does every sum. If words wrap
around, the number is that of the words, which is to say that the books balance in the
arithmetic of words.

No edit upsets the balance (`Books.IsBalanced.record_of_leaves`), and so no sequence of
edits does. As long as no entry has been discarded, the sheet has the exact count of each
value that was given. A value that was given zero times is held as well, and has the
count of a value that is not.
-/

namespace TableProfile

namespace Overflow

variable {overflow : Overflow} {count weight sum : Nat}

/-- **A sum is a word**, and the right one up to a multiple of the number of words. It is
the right one if it stops otherwise, or if it fits. -/
theorem of_sum? (h : overflow.sum? count weight = some sum) :
    sum < UInt64.size ∧ sum ≡ count + weight [MOD UInt64.size]
      ∧ (overflow = .stops ∨ count + weight < UInt64.size → sum = count + weight) := by
  unfold sum? at h
  by_cases fits : count + weight < UInt64.size
  · rw [if_pos fits] at h
    obtain rfl := Option.some.inj h
    exact ⟨fits, .rfl, fun _ => rfl⟩
  · rw [if_neg fits] at h
    cases overflow with
    | stops => cases h
    | wraps =>
      obtain rfl := Option.some.inj h
      exact ⟨Nat.mod_lt _ (by decide), Nat.mod_modEq _ _,
        fun hor => absurd (hor.resolve_left Overflow.noConfusion) fits⟩

/-- **There is no sum** exactly if it is too large and that stops the program. -/
theorem sum?_eq_none_iff :
    overflow.sum? count weight = none ↔ overflow = .stops ∧ UInt64.size ≤ count + weight := by
  unfold sum?
  by_cases fits : count + weight < UInt64.size
  · rw [if_pos fits]
    exact iff_of_false (Option.some_ne_none _) fun h => Nat.not_lt.mpr h.2 fits
  · rw [if_neg fits]
    cases overflow with
    | stops => exact iff_of_true rfl ⟨rfl, Nat.not_lt.mp fits⟩
    | wraps => exact iff_of_false (Option.some_ne_none _) fun h => Overflow.noConfusion h.1

end Overflow

/-- **An edit of a sheet.** -/
inductive Edit where
  /-- Counts a value once. -/
  | add (value : String)
  /-- Counts a value with a weight. -/
  | addTimes (value : String) (weight : UInt64)
  /-- Keeps the first entries. -/
  | trim (n : Nat)

/-- **A reply to an edit.** -/
inductive Reply where
  /-- Whether the value that was counted was new. -/
  | isNew (new : Bool)
  /-- How many entries were discarded. -/
  | discarded (number : Nat)
  deriving DecidableEq

/-- The number of entries that a reply says were discarded. -/
def Reply.number : Reply → Nat
  | isNew _ => 0
  | discarded number => number

namespace Edit

/-- The value that an edit gives, with its weight. -/
def given : Edit → List (String × Nat)
  | add value => [(value, 1)]
  | addTimes value weight => [(value, weight.toNat)]
  | trim _ => []

/-- The sheet after an edit, unless that stops the program. -/
def leaves? (overflow : Overflow) (sheet : TallySheet) : Edit → Option TallySheet
  | add value => sheet.addWord? overflow value 1
  | addTimes value weight => sheet.addWord? overflow value weight
  | trim n => some (sheet.trim n)

/-- The reply of a sheet to an edit. -/
def reply (sheet : TallySheet) : Edit → Reply
  | add value => .isNew !sheet.holds value
  | addTimes value _ => .isNew !sheet.holds value
  | trim n => .discarded (sheet.excess n)

end Edit

/-- The entries of a sheet whose values it no longer holds after an edit. -/
def TallySheet.lost (sheet after : TallySheet) : List Tally :=
  sheet.entries.filter fun e => !after.holds e.value

/-- **A sheet with its books**: what was given to it, what it replied, and what it
discarded, each entry as it was at that moment. -/
structure Books where
  /-- The sheet. -/
  sheet : TallySheet := {}
  /-- The values that were given, with their weights. -/
  given : List (String × Nat) := []
  /-- The replies. -/
  replies : List Reply := []
  /-- The entries that were discarded. -/
  lost : List Tally := []

namespace Books

/-- The books after an edit that left a sheet. -/
def record (books : Books) (edit : Edit) (after : TallySheet) : Books where
  sheet := after
  given := books.given ++ edit.given
  replies := books.replies ++ [edit.reply books.sheet]
  lost := books.lost ++ books.sheet.lost after

/-- **Enters an edit** into the books, unless it stops the program. -/
def enter? (overflow : Overflow) (books : Books) (edit : Edit) : Option Books :=
  (edit.leaves? overflow books.sheet).map (books.record edit)

/-- **The books after some edits** of a new sheet, unless one of them stops the
program. -/
def ofEdits? (overflow : Overflow) (edits : List Edit) : Option Books :=
  edits.foldlM (enter? overflow) {}

end Books

/-! ## The counts of a sheet -/

namespace TallySheet

variable (sheet : TallySheet) (value : String) (n : Nat)

/-- The counts of a sheet, all together. -/
def total : Nat :=
  (sheet.entries.map (·.count)).sum

/-- The values that are held. -/
def heldValues : Finset String :=
  (sheet.entries.map (·.value)).toFinset

theorem mem_heldValues {v : String} : v ∈ sheet.heldValues ↔ sheet.holds v = true := by
  rw [heldValues, List.mem_toFinset, List.mem_map]
  constructor
  · rintro ⟨e, he, rfl⟩
    exact ((mem_entries sheet).mp he).1
  · exact fun h => ⟨⟨v, sheet.count v⟩, (mem_entries sheet).mpr ⟨h, rfl⟩, rfl⟩

theorem card_heldValues : sheet.heldValues.card = sheet.size := by
  rw [heldValues, List.toFinset_card_of_nodup sheet.nodup_values_entries, List.length_map,
    length_entries]

theorem total_eq_sum : sheet.total = ∑ v ∈ sheet.heldValues, sheet.count v := by
  rw [heldValues, List.sum_toFinset _ sheet.nodup_values_entries, List.map_map, total]
  refine congrArg List.sum (List.map_congr_left fun e he => ?_)
  exact ((mem_entries sheet).mp he).2.symm

/-- No count exceeds all counts together. -/
theorem count_le_total : sheet.count value ≤ sheet.total := by
  cases hheld : sheet.holds value with
  | false =>
    rw [count_eq_zero_of_not_holds sheet value hheld]
    exact Nat.zero_le _
  | true =>
    rw [total_eq_sum]
    exact Finset.single_le_sum (fun v _ => Nat.zero_le (sheet.count v))
      (sheet.mem_heldValues.mpr hheld)

theorem heldValues_setCount :
    (sheet.setCount value n).heldValues = insert value sheet.heldValues := by
  ext v
  rw [mem_heldValues, holds_setCount, Finset.mem_insert, mem_heldValues, Bool.or_eq_true,
    decide_eq_true_iff, eq_comm]

/-- **Giving a value a count** adds an entry if the value is new. -/
theorem size_setCount :
    (sheet.setCount value n).size = sheet.size + if sheet.holds value then 0 else 1 := by
  rw [← card_heldValues, ← card_heldValues, heldValues_setCount, Finset.card_insert_eq_ite]
  simp only [mem_heldValues]
  split <;> rfl

/-- **Giving a value a count** puts it in the place of the one it had, whether it is new or
not. -/
theorem total_setCount :
    (sheet.setCount value n).total + sheet.count value = sheet.total + n := by
  have hsame : ∑ v ∈ insert value sheet.heldValues, sheet.count v
      = ∑ v ∈ sheet.heldValues, sheet.count v := by
    refine Finset.sum_insert_of_eq_zero_if_notMem fun hv => ?_
    exact count_eq_zero_of_not_holds sheet value
      (Bool.eq_false_iff.mpr (mt sheet.mem_heldValues.mpr hv))
  have hpoint : ∀ v, (sheet.setCount value n).count v + (if value = v then sheet.count value else 0)
      = sheet.count v + if value = v then n else 0 := by
    intro v
    rw [count_setCount]
    by_cases hv : value = v
    · rw [if_pos hv, if_pos hv, if_pos hv, hv, Nat.add_comm]
    · rw [if_neg hv, if_neg hv, if_neg hv]
  have hsum := Finset.sum_congr (rfl : insert value sheet.heldValues = _) fun v _ => hpoint v
  rw [Finset.sum_add_distrib, Finset.sum_add_distrib, hsame, Finset.sum_ite_eq,
    Finset.sum_ite_eq, if_pos (Finset.mem_insert_self _ _),
    if_pos (Finset.mem_insert_self _ _)] at hsum
  rwa [total_eq_sum, heldValues_setCount, total_eq_sum]

/-- **A trim** takes the counts of the entries that it discards from the counts. -/
theorem total_trim :
    (sheet.trim n).total + ((sheet.lost (sheet.trim n)).map (·.count)).sum = sheet.total := by
  have hsplit := List.filter_append_perm (fun e => (sheet.trim n).holds e.value) sheet.entries
  have hkept := (perm_filter_holds_trim sheet n).map (·.count)
  unfold total
  rw [← (hsplit.map (·.count)).sum_eq, List.map_append, List.sum_append, hkept.sum_eq]
  rfl

/-- A trim raises no count. -/
theorem count_trim_le : (sheet.trim n).count value ≤ sheet.count value := by
  cases hheld : (sheet.trim n).holds value with
  | false =>
    rw [count_eq_zero_of_not_holds _ _ hheld]
    exact Nat.zero_le _
  | true =>
    have hmem : ⟨value, (sheet.trim n).count value⟩ ∈ sheet.entries :=
      (sheet.isCutTo_trim n).unchanged _ ((mem_entries _).mpr ⟨hheld, rfl⟩)
    exact ((mem_entries sheet).mp hmem).2.ge

/-- A sheet that is counted on loses nothing. -/
theorem lost_setCount : sheet.lost (sheet.setCount value n) = [] := by
  refine List.filter_eq_nil_iff.mpr fun e he => ?_
  rw [holds_setCount, ((mem_entries sheet).mp he).1, Bool.or_true]
  exact Bool.false_ne_true

end TallySheet

/-! ## What an edit does -/

namespace Edit

variable {overflow : Overflow} {sheet after : TallySheet} {edit : Edit}

/-- **An edit counts a value**, and gives it a sum for its count, or it is a trim. -/
theorem of_leaves (h : edit.leaves? overflow sheet = some after) :
    (∃ value weight sum, edit.given = [(value, weight)]
        ∧ edit.reply sheet = .isNew !sheet.holds value
        ∧ overflow.sum? (sheet.count value) weight = some sum ∧ after = sheet.setCount value sum)
      ∨ ∃ n, edit = .trim n ∧ after = sheet.trim n := by
  cases edit with
  | add value =>
    obtain ⟨sum, hsum, rfl⟩ := Option.map_eq_some_iff.mp h
    exact .inl ⟨value, _, sum, rfl, rfl, hsum, rfl⟩
  | addTimes value weight =>
    obtain ⟨sum, hsum, rfl⟩ := Option.map_eq_some_iff.mp h
    exact .inl ⟨value, _, sum, rfl, rfl, hsum, rfl⟩
  | trim n =>
    obtain rfl := Option.some.inj h
    exact .inr ⟨n, rfl, rfl⟩

/-- **An edit stops the program** if it counts a value and the sum is too large. -/
theorem leaves?_eq_none_iff :
    edit.leaves? overflow sheet = none ↔ overflow = .stops ∧ ∃ value weight,
      edit.given = [(value, weight)] ∧ UInt64.size ≤ sheet.count value + weight := by
  have hcounts : ∀ value weight, edit.given = [(value, weight)] →
      (overflow.sum? (sheet.count value) weight = none ↔ overflow = .stops ∧ ∃ value weight,
        edit.given = [(value, weight)] ∧ UInt64.size ≤ sheet.count value + weight) := by
    intro value weight hgiven
    rw [Overflow.sum?_eq_none_iff, hgiven]
    simp
  cases edit with
  | add value => exact Option.map_eq_none_iff.trans (hcounts value 1 rfl)
  | addTimes value weight => exact Option.map_eq_none_iff.trans (hcounts value _ rfl)
  | trim n => exact iff_of_false (Option.some_ne_none _) fun ⟨_, _, _, hgiven, _⟩ => by cases hgiven

end Edit

/-! ## Balance -/

namespace Books

/-- All the weights that were given. -/
def weight (books : Books) : Nat :=
  (books.given.map (·.2)).sum

/-- The weight that was given to a value. -/
def weightOf (books : Books) (value : String) : Nat :=
  ((books.given.filter (·.1 = value)).map (·.2)).sum

/-- The counts that are held and those that were discarded, all together. -/
def counted (books : Books) : Nat :=
  books.sheet.total + (books.lost.map (·.count)).sum

/-- **Balanced books**, up to multiples of a number. -/
structure IsBalanced (modulus : Nat) (books : Books) : Prop where
  /-- What came in as new is held or was discarded. -/
  entries : books.sheet.size + (books.replies.map (·.number)).sum
    = books.replies.count (.isNew true)
  /-- What was given is in the counts that are held or in those that were discarded. -/
  weights : books.counted ≡ books.weight [MOD modulus]
  /-- The flag tells whether any entry was discarded. -/
  flag : books.sheet.hasDiscarded = true ↔ ∃ n, 0 < n ∧ .discarded n ∈ books.replies
  /-- Until then each value has the count that was given to it. -/
  counts : books.sheet.hasDiscarded = false →
    ∀ v, books.sheet.count v ≡ books.weightOf v [MOD modulus]
  /-- Until then whatever was given is held. -/
  values : books.sheet.hasDiscarded = false →
    ∀ v, books.sheet.holds v = true ↔ v ∈ books.given.map (·.1)

variable {books : Books} {overflow : Overflow} {edits : List Edit} {edit : Edit} {modulus : Nat}

theorem isBalanced_new : ({} : Books).IsBalanced modulus where
  entries := rfl
  weights := .rfl
  flag := iff_of_false Bool.false_ne_true fun ⟨_, _, h⟩ => List.not_mem_nil h
  counts _ _ := .rfl
  values _ _ := iff_of_false Bool.false_ne_true List.not_mem_nil

/-- What is given to a value is given to no other. -/
theorem weightOf_record {after : TallySheet} {value : String} {weight : Nat}
    (given : edit.given = [(value, weight)]) (v : String) :
    (books.record edit after).weightOf v
      = books.weightOf v + if value = v then weight else 0 := by
  show (((books.given ++ edit.given).filter (·.1 = v)).map (·.2)).sum = _
  rw [given, List.filter_append, List.map_append, List.sum_append]
  refine congrArg (books.weightOf v + ·) ?_
  by_cases hv : value = v
  · simp [hv]
  · simp [hv]

/-- **Counting a value** keeps the balance up to what the sum is right up to. -/
theorem IsBalanced.record_setCount (h : books.IsBalanced modulus) {value : String}
    {weight sum : Nat} (given : edit.given = [(value, weight)])
    (reply : edit.reply books.sheet = .isNew !books.sheet.holds value)
    (right : sum ≡ books.sheet.count value + weight [MOD modulus]) :
    (books.record edit (books.sheet.setCount value sum)).IsBalanced modulus where
  entries := by
    have hentries := h.entries
    show (books.sheet.setCount value sum).size
        + ((books.replies ++ [edit.reply books.sheet]).map (·.number)).sum
      = (books.replies ++ [edit.reply books.sheet]).count (.isNew true)
    rw [TallySheet.size_setCount, reply, List.map_append, List.sum_append, List.count_append]
    cases books.sheet.holds value with
    | true => exact hentries
    | false =>
      show books.sheet.size + 1 + (_ + 0) = _ + 1
      omega
  weights := by
    have htotal := books.sheet.total_setCount value sum
    have hcounted : (books.record edit (books.sheet.setCount value sum)).counted
        = (books.sheet.setCount value sum).total + (books.lost.map (·.count)).sum := by
      show _ + ((books.lost ++ books.sheet.lost _).map (·.count)).sum = _
      rw [TallySheet.lost_setCount, List.append_nil]
      rfl
    have hweight : (books.record edit (books.sheet.setCount value sum)).weight
        = books.weight + weight := by
      show ((books.given ++ edit.given).map (·.2)).sum = _
      rw [given, List.map_append, List.sum_append]
      rfl
    -- both sides with the count that the value had before
    refine Nat.ModEq.add_right_cancel' (books.sheet.count value) ?_
    calc (books.record edit (books.sheet.setCount value sum)).counted + books.sheet.count value
        = books.counted + sum := by
          unfold counted at hcounted ⊢
          omega
      _ ≡ books.weight + (books.sheet.count value + weight) [MOD modulus] :=
          h.weights.add right
      _ = (books.record edit (books.sheet.setCount value sum)).weight
            + books.sheet.count value := by
          rw [hweight, Nat.add_comm (books.sheet.count value), Nat.add_assoc]
  flag := by
    refine h.flag.trans (exists_congr fun n => and_congr_right fun _ => ?_)
    show _ ↔ _ ∈ books.replies ++ [edit.reply books.sheet]
    rw [reply]
    exact (List.mem_append.trans (or_iff_left (List.mem_singleton.not.mpr Reply.noConfusion))).symm
  counts hflag v := by
    rw [weightOf_record given]
    show (books.sheet.setCount value sum).count v ≡ _ [MOD modulus]
    rw [TallySheet.count_setCount]
    by_cases hv : value = v
    · subst hv
      rw [if_pos rfl, if_pos rfl]
      exact right.trans ((h.counts hflag value).add_right weight)
    · rw [if_neg hv, if_neg hv]
      exact h.counts hflag v
  values hflag v := by
    show (books.sheet.setCount value sum).holds v = true
      ↔ v ∈ (books.given ++ edit.given).map (·.1)
    rw [TallySheet.holds_setCount, Bool.or_eq_true, decide_eq_true_iff, h.values hflag, given,
      List.map_append, List.mem_append, List.map_singleton, List.mem_singleton, or_comm, eq_comm]

/-- A trim gives nothing. -/
theorem given_record_trim (n : Nat) (after : TallySheet) :
    (books.record (.trim n) after).given = books.given :=
  List.append_nil _

/-- **A trim** keeps the balance. -/
theorem IsBalanced.record_trim (h : books.IsBalanced modulus) (n : Nat) :
    (books.record (.trim n) (books.sheet.trim n)).IsBalanced modulus := by
  -- a trim that leaves the flag down does nothing
  have hsame : (books.sheet.trim n).hasDiscarded = false →
      books.sheet.hasDiscarded = false ∧ books.sheet.trim n = books.sheet := by
    intro hflag
    rw [TallySheet.hasDiscarded_trim, Bool.or_eq_false_iff, decide_eq_false_iff_not,
      Nat.not_lt] at hflag
    exact ⟨hflag.1, TallySheet.trim_of_size_le _ _ hflag.2⟩
  refine ⟨?_, ?_, ?_, fun hflag v => ?_, fun hflag v => ?_⟩
  · have hentries := h.entries
    show (books.sheet.trim n).size
        + ((books.replies ++ [Reply.discarded (books.sheet.excess n)]).map (·.number)).sum
      = (books.replies ++ [Reply.discarded (books.sheet.excess n)]).count (.isNew true)
    rw [TallySheet.size_trim, List.map_append, List.sum_append, List.count_append]
    show min books.sheet.size n + (_ + (books.sheet.size - n + 0)) = _ + 0
    omega
  · have htotal := books.sheet.total_trim n
    have hcounted : (books.record (.trim n) (books.sheet.trim n)).counted = books.counted := by
      show (books.sheet.trim n).total
        + ((books.lost ++ books.sheet.lost (books.sheet.trim n)).map (·.count)).sum = _
      rw [List.map_append, List.sum_append, counted]
      omega
    rw [hcounted, weight, given_record_trim]
    exact h.weights
  · show (books.sheet.trim n).hasDiscarded = true
      ↔ ∃ m, 0 < m ∧ Reply.discarded m ∈ books.replies ++ [.discarded (books.sheet.excess n)]
    rw [(books.sheet.isCutTo_trim n).flag, Bool.or_eq_true, h.flag, decide_eq_true_iff]
    simp only [List.mem_append, List.mem_singleton, Reply.discarded.injEq, and_or_left, exists_or,
      exists_eq_right]
  · obtain ⟨hbefore, heq⟩ := hsame hflag
    show (books.sheet.trim n).count v ≡ _ [MOD modulus]
    rw [heq, weightOf, given_record_trim]
    exact h.counts hbefore v
  · obtain ⟨hbefore, heq⟩ := hsame hflag
    show (books.sheet.trim n).holds v = true ↔ _
    rw [heq, given_record_trim, h.values hbefore]

/-- **No edit upsets the balance** up to a number that the sums are right up to. -/
theorem IsBalanced.record_of_leaves (h : books.IsBalanced modulus) {after : TallySheet}
    (hleaves : edit.leaves? overflow books.sheet = some after)
    (right : ∀ value weight sum, edit.given = [(value, weight)] →
      overflow.sum? (books.sheet.count value) weight = some sum →
      sum ≡ books.sheet.count value + weight [MOD modulus]) :
    (books.record edit after).IsBalanced modulus := by
  obtain ⟨value, weight, sum, hgiven, hreply, hsum, rfl⟩ | ⟨n, rfl, rfl⟩ := Edit.of_leaves hleaves
  · exact h.record_setCount hgiven hreply (right value weight sum hgiven hsum)
  · exact h.record_trim n

/-! ## Some edits -/

theorem ofEdits?_concat (overflow : Overflow) (edits : List Edit) (edit : Edit) :
    ofEdits? overflow (edits ++ [edit])
      = (ofEdits? overflow edits).bind fun books => books.enter? overflow edit := by
  show (edits ++ [edit]).foldlM (enter? overflow) {} = _
  rw [List.foldlM_append]
  refine congrArg (Option.bind _) (funext fun books => ?_)
  show (books.enter? overflow edit).bind some = _
  cases books.enter? overflow edit with
  | some after => rfl
  | none => rfl

/-- The last of some edits was entered into the books after the others. -/
theorem exists_of_ofEdits?_concat (h : ofEdits? overflow (edits ++ [edit]) = some books) :
    ∃ before after, ofEdits? overflow edits = some before
      ∧ edit.leaves? overflow before.sheet = some after ∧ books = before.record edit after := by
  rw [ofEdits?_concat] at h
  obtain ⟨before, hbefore, henter⟩ := Option.bind_eq_some_iff.mp h
  obtain ⟨after, hleaves, rfl⟩ := Option.map_eq_some_iff.mp henter
  exact ⟨before, after, hbefore, hleaves, rfl⟩

/-- **Books balance in the arithmetic of words.** -/
theorem isBalanced_ofEdits? (h : ofEdits? overflow edits = some books) :
    books.IsBalanced UInt64.size := by
  induction edits using List.reverseRecOn generalizing books with
  | nil =>
    obtain rfl := Option.some.inj h
    exact isBalanced_new
  | append_singleton edits edit ih =>
    obtain ⟨before, after, hbefore, hleaves, rfl⟩ := exists_of_ofEdits?_concat h
    exact (ih hbefore).record_of_leaves hleaves fun _ _ _ _ hsum => (Overflow.of_sum? hsum).2.1

/-- The weights given so far are among those given later. -/
theorem weight_record (books : Books) (edit : Edit) (after : TallySheet) :
    (books.record edit after).weight = books.weight + (edit.given.map (·.2)).sum := by
  show ((books.given ++ edit.given).map (·.2)).sum = _
  rw [List.map_append, List.sum_append]
  rfl

/-- In books that balance exactly no count exceeds all that was given. -/
theorem IsBalanced.count_le_weight (h : books.IsBalanced 0) (v : String) :
    books.sheet.count v ≤ books.weight := by
  rw [← Nat.modEq_zero_iff.mp h.weights]
  exact (books.sheet.count_le_total v).trans (Nat.le_add_right _ _)

/-- **Books balance exactly** if sums that are too large stop the program, or if all that
was given fits into a word. -/
theorem isBalanced_zero_ofEdits? (h : ofEdits? overflow edits = some books)
    (exact : overflow = .stops ∨ books.weight < UInt64.size) : books.IsBalanced 0 := by
  induction edits using List.reverseRecOn generalizing books with
  | nil =>
    obtain rfl := Option.some.inj h
    exact isBalanced_new
  | append_singleton edits edit ih =>
    obtain ⟨before, after, hbefore, hleaves, rfl⟩ := exists_of_ofEdits?_concat h
    rw [weight_record] at exact
    have balanced : before.IsBalanced 0 :=
      ih hbefore (exact.imp_right (Nat.le_add_right _ _).trans_lt)
    refine balanced.record_of_leaves hleaves fun value weight sum hgiven hsum => ?_
    refine Nat.modEq_zero_iff.mpr ((Overflow.of_sum? hsum).2.2 (exact.imp_right fun hfits => ?_))
    -- the count is part of what was given before
    have hcount := balanced.count_le_weight value
    rw [hgiven, List.map_singleton, List.sum_singleton] at hfits
    omega

/-- **Counts are words.** -/
theorem count_lt_of_ofEdits? (h : ofEdits? overflow edits = some books) (v : String) :
    books.sheet.count v < UInt64.size := by
  induction edits using List.reverseRecOn generalizing books with
  | nil =>
    obtain rfl := Option.some.inj h
    exact Nat.zero_lt_of_lt (UInt64.toNat_lt_size 0)
  | append_singleton edits edit ih =>
    obtain ⟨before, after, hbefore, hleaves, rfl⟩ := exists_of_ofEdits?_concat h
    show after.count v < UInt64.size
    obtain ⟨value, weight, sum, -, -, hsum, rfl⟩ | ⟨n, -, rfl⟩ := Edit.of_leaves hleaves
    · rw [TallySheet.count_setCount]
      split
      · exact (Overflow.of_sum? hsum).1
      · exact ih hbefore
    · exact (before.sheet.count_trim_le v n).trans_lt (ih hbefore)

theorem given_ofEdits? (h : ofEdits? overflow edits = some books) :
    books.given = edits.flatMap Edit.given := by
  induction edits using List.reverseRecOn generalizing books with
  | nil =>
    obtain rfl := Option.some.inj h
    rfl
  | append_singleton edits edit ih =>
    obtain ⟨before, after, hbefore, hleaves, rfl⟩ := exists_of_ofEdits?_concat h
    rw [List.flatMap_append, List.flatMap_singleton, ← ih hbefore]
    rfl

/-- **Edits stop the program** exactly if one of them does, after those before it. -/
theorem ofEdits?_eq_none_iff : ofEdits? overflow edits = none ↔ ∃ before edit after books,
    edits = before ++ edit :: after ∧ ofEdits? overflow before = some books
      ∧ edit.leaves? overflow books.sheet = none := by
  constructor
  · intro h
    induction edits using List.reverseRecOn with
    | nil => cases h
    | append_singleton edits edit ih =>
      rw [ofEdits?_concat] at h
      cases hbefore : ofEdits? overflow edits with
      | some books =>
        rw [hbefore] at h
        exact ⟨edits, edit, [], books, rfl, hbefore, Option.map_eq_none_iff.mp h⟩
      | none =>
        obtain ⟨before, stopping, after, books, rfl, hbooks, hnone⟩ := ih hbefore
        exact ⟨before, stopping, after ++ [edit], books, List.append_assoc .., hbooks, hnone⟩
  · rintro ⟨before, edit, after, books, rfl, hbooks, hnone⟩
    have hstop : books.enter? overflow edit = none := Option.map_eq_none_iff.mpr hnone
    show (before ++ edit :: after).foldlM (enter? overflow) {} = none
    rw [List.foldlM_append]
    show (ofEdits? overflow before).bind _ = none
    rw [hbooks, Option.bind_some, List.foldlM_cons, hstop]
    rfl

/-- **Edits that give no more than a word holds** go through. -/
theorem exists_ofEdits?_of_lt (overflow : Overflow)
    (fits : ((edits.flatMap Edit.given).map (·.2)).sum < UInt64.size) :
    ∃ books, ofEdits? overflow edits = some books := by
  refine Option.ne_none_iff_exists'.mp fun hnone => ?_
  obtain ⟨before, edit, after, books, rfl, hbooks, hstops⟩ := ofEdits?_eq_none_iff.mp hnone
  obtain ⟨hoverflow, value, weight, hgiven, hlarge⟩ := Edit.leaves?_eq_none_iff.mp hstops
  have hcount := (isBalanced_zero_ofEdits? hbooks (.inl hoverflow)).count_le_weight value
  rw [Books.weight, given_ofEdits? hbooks] at hcount
  rw [List.flatMap_append, List.flatMap_cons, hgiven] at fits
  simp only [List.map_append, List.sum_append, List.map_singleton, List.sum_singleton] at fits
  omega

/-- As long as nothing has been discarded, as many values are held as were given. -/
theorem IsBalanced.size_eq (h : books.IsBalanced modulus)
    (hflag : books.sheet.hasDiscarded = false) :
    books.sheet.size = (books.given.map (·.1)).toFinset.card := by
  rw [← TallySheet.card_heldValues]
  refine congrArg Finset.card (Finset.ext fun v => ?_)
  rw [TallySheet.mem_heldValues, h.values hflag, List.mem_toFinset]

/-- The flag is down as long as no reply tells of a discarded entry. -/
theorem IsBalanced.hasDiscarded_eq_false (h : books.IsBalanced modulus)
    (none : ∀ n, .discarded n ∈ books.replies → n = 0) : books.sheet.hasDiscarded = false := by
  refine Bool.eq_false_iff.mpr (h.flag.not.mpr ?_)
  rintro ⟨n, hpos, hmem⟩
  exact hpos.ne' (none n hmem)

/-- The largest count there is, and once more: the program stops, or the count is zero. -/
example :
    let edits := [.addTimes "a" 18446744073709551615, .add "a"]
    (ofEdits? .stops edits).isNone = true
      ∧ (ofEdits? .wraps edits).map (·.sheet.count "a") = some 0 := by
  decide +kernel

end Books

end TableProfile
