import TableProfile.Proofs.Ranking

/-!
# What a trim keeps

A trim keeps the entries in front, each with its count. It has no choice: of two
entries one comes before the other, so that for each number there is one collection
of entries that come before all others. A sheet that is cut to its first entries is
therefore determined by what it should be (`isCutTo_iff`), and neither the order in
which the entries are met nor the way in which they are sorted shows in it
(`counts_trim_of_sorted`).

To cut a ranking twice is to cut it at the shorter of the two widths. So trims commute,
a trim that is repeated does nothing, and two trims discard as many entries as the
narrower one alone.
-/

namespace TableProfile

/-- Of two entries with different values, one comes before the other. -/
theorem Tally.precedes_of_not_precedes {a b : Tally} (hne : a.value ≠ b.value)
    (h : ¬ b.Precedes a) : a.Precedes b := by
  have htotal := ranksBefore_total a b
  rw [Bool.or_eq_true] at htotal
  exact precedes_of_ranksBefore
    (htotal.resolve_right fun hba => h (precedes_of_ranksBefore hba hne.symm)) hne

namespace TallySheet

variable {sheet : TallySheet} (n m : Nat)

/-! ## A sheet and its entries -/

/-- **A sheet is built from its entries**, whatever their order. -/
theorem counts_eq_countsOf {l : List Tally} (h : l.Perm sheet.entries) :
    sheet.counts = countsOf l := by
  have distinct : (l.map (·.value)).Nodup :=
    (h.map _).nodup_iff.mpr sheet.nodup_values_entries
  refine Std.ExtTreeMap.ext_getElem? fun v => Option.ext fun c => ?_
  rw [getElem?_countsOf v distinct, h.mem_iff, mem_entries, holds_eq_isSome, count_eq_getD]
  cases sheet.counts[v]? with
  | none => simp
  | some d => simp

/-- A sheet is known by its ranking and its flag. -/
theorem ext_of_ranked {t : TallySheet} (ranked : sheet.ranked = t.ranked)
    (flag : sheet.hasDiscarded = t.hasDiscarded) : sheet = t := by
  have hcounts : sheet.counts = t.counts := by
    rw [counts_eq_countsOf sheet.perm_ranked, counts_eq_countsOf t.perm_ranked, ranked]
  cases sheet
  cases t
  exact congr (congrArg mk hcounts) flag

variable (sheet)

/-- **The entries that a trim keeps** are the first of the ranking. -/
theorem perm_entries_trim_take : (sheet.trim n).entries.Perm (sheet.ranked.take n) := by
  rw [← ranked_trim]
  exact (perm_ranked _).symm

/-- A trim keeps an entry if it keeps its value. -/
theorem mem_entries_trim_iff {e : Tally} : e ∈ (sheet.trim n).entries
    ↔ e ∈ sheet.entries ∧ (sheet.trim n).holds e.value = true := by
  rw [mem_entries, mem_entries]
  constructor
  · rintro ⟨hkept, hcount⟩
    obtain ⟨hheld, hsame⟩ := holds_of_holds_trim sheet e.value n hkept
    exact ⟨⟨hheld, hsame.trans hcount⟩, hkept⟩
  · rintro ⟨⟨-, hcount⟩, hkept⟩
    exact ⟨hkept, (holds_of_holds_trim sheet e.value n hkept).2.symm.trans hcount⟩

/-- The entries whose values a trim keeps are those it keeps. -/
theorem perm_filter_holds_trim :
    (sheet.entries.filter fun e => (sheet.trim n).holds e.value).Perm (sheet.trim n).entries :=
  (List.perm_ext_iff_of_nodup (sheet.nodup_values_entries.of_map.filter _)
    (nodup_values_entries _).of_map).mpr fun _ => by
      rw [List.mem_filter, mem_entries_trim_iff]

/-- **A sheet cut to its first `n` entries**, and how many entries it loses. -/
structure IsCutTo (sheet : TallySheet) (n : Nat) (kept : TallySheet) (discarded : Nat) :
    Prop where
  /-- So many entries are kept, or all of them. -/
  size : kept.size = min sheet.size n
  /-- What is kept has the count it had. -/
  unchanged : ∀ e ∈ kept.entries, e ∈ sheet.entries
  /-- What is kept comes before what is not. -/
  first : ∀ e ∈ kept.entries, ∀ other ∈ sheet.entries, other ∉ kept.entries → e.Precedes other
  /-- What is not kept is discarded. -/
  discarded_eq : discarded = (sheet.entries.filter (· ∉ kept.entries)).length
  /-- The flag is set if anything is discarded, and is never cleared. -/
  flag : kept.hasDiscarded = (sheet.hasDiscarded || decide (0 < discarded))

/-- The entries that a trim discards are as many as it says. -/
theorem length_filter_not_mem_trim :
    (sheet.entries.filter (· ∉ (sheet.trim n).entries)).length = sheet.excess n := by
  have hkept : (sheet.entries.filter (· ∈ (sheet.trim n).entries)).length = min sheet.size n := by
    rw [← size_trim, ← length_entries, ← (perm_filter_holds_trim sheet n).length_eq]
    refine congrArg List.length (List.filter_congr fun e he => ?_)
    rw [Bool.eq_iff_iff, decide_eq_true_iff, mem_entries_trim_iff, and_iff_right he]
  have hsum := sheet.entries.length_eq_length_filter_add (· ∈ (sheet.trim n).entries)
  rw [hkept, length_entries] at hsum
  unfold excess
  simp only [decide_not]
  omega

/-- **A trim cuts a sheet to its first entries.** -/
theorem isCutTo_trim : sheet.IsCutTo n (sheet.trim n) (sheet.excess n) where
  size := size_trim sheet n
  unchanged _ he := ((mem_entries_trim_iff sheet n).mp he).1
  first e he other hother hlost := by
    have hdrop : other ∈ sheet.ranked.drop n := by
      have hmem := sheet.perm_ranked.symm.subset hother
      rw [← List.take_append_drop n sheet.ranked, List.mem_append] at hmem
      exact hmem.resolve_left fun h => hlost ((perm_entries_trim_take sheet n).symm.subset h)
    have hordered := sheet.pairwise_ranked
    rw [← List.take_append_drop n sheet.ranked, List.pairwise_append] at hordered
    exact hordered.2.2 e ((perm_entries_trim_take sheet n).subset he) other hdrop
  discarded_eq := (length_filter_not_mem_trim sheet n).symm
  flag := by
    rw [hasDiscarded_trim, excess]
    simp only [Nat.sub_pos_iff_lt]

variable {sheet n}

/-- Of two cuts to one width, none keeps an entry that the other does not. -/
theorem IsCutTo.subset {kept kept' : TallySheet} {discarded discarded' : Nat}
    (h : sheet.IsCutTo n kept discarded) (h' : sheet.IsCutTo n kept' discarded') :
    kept.entries ⊆ kept'.entries := by
  intro e he
  by_contra hno
  -- whatever the other keeps comes before `e`, so this one keeps it as well
  have hsub : kept'.entries ⊆ kept.entries := by
    intro e' he'
    by_contra hno'
    exact (h.first e he e' (h'.unchanged e' he') hno').asymm
      (h'.first e' he' e (h.unchanged e he) hno)
  have hsize : kept.entries.length ≤ kept'.entries.length := by
    rw [length_entries, length_entries, h.size, h'.size]
  have hperm := (List.subperm_of_subset (nodup_values_entries kept').of_map hsub).perm_of_length_le
    hsize
  exact hno (hperm.symm.subset he)

/-- **There is one cut to each width.** -/
theorem isCutTo_iff {kept : TallySheet} {discarded : Nat} :
    sheet.IsCutTo n kept discarded ↔ kept = sheet.trim n ∧ discarded = sheet.excess n := by
  constructor
  · intro h
    have hcut := isCutTo_trim sheet n
    have hperm : kept.entries.Perm (sheet.trim n).entries :=
      (List.perm_ext_iff_of_nodup (nodup_values_entries _).of_map
        (nodup_values_entries _).of_map).mpr fun _ => ⟨(h.subset hcut ·), (hcut.subset h ·)⟩
    have hnumber : discarded = sheet.excess n := by
      rw [h.discarded_eq, hcut.discarded_eq]
      simp only [hperm.mem_iff]
    refine ⟨ext_of_ranked ?_ ?_, hnumber⟩
    · exact ranked_eq_of_perm (hperm.trans (perm_ranked _).symm) (pairwise_ranked _)
    · rw [h.flag, hcut.flag, hnumber]
  · rintro ⟨rfl, rfl⟩
    exact isCutTo_trim sheet n

/-! ## Sorting and cutting -/

/-- Entries that are sorted by any means are the ranking. -/
theorem ranked_eq_of_sorted {sorted : List Tally} (h : sorted.Perm sheet.entries)
    (ordered : sorted.Pairwise fun a b => ¬ b.Precedes a) : sheet.ranked = sorted := by
  have distinct : sorted.Pairwise fun a b => a.value ≠ b.value :=
    List.pairwise_map.mp ((h.map _).nodup_iff.mpr sheet.nodup_values_entries)
  exact ranked_eq_of_perm h.symm
    ((ordered.and distinct).imp fun h => Tally.precedes_of_not_precedes h.2 h.1)

/-- **A trim is a sort, a cut and a collection**: however the entries are met, sorted
and put in again, the counts are the same. -/
theorem counts_trim_of_sorted {met sorted kept : List Tally} (hmet : met.Perm sheet.entries)
    (hsorted : sorted.Perm met) (ordered : sorted.Pairwise fun a b => ¬ b.Precedes a)
    (hkept : kept.Perm (sorted.take n)) : (sheet.trim n).counts = countsOf kept := by
  refine counts_eq_countsOf (hkept.trans ?_)
  rw [← ranked_eq_of_sorted (hsorted.trans hmet) ordered]
  exact (perm_entries_trim_take sheet n).symm

/-! ## Trims after trims -/

variable (sheet n)

/-- **Two trims are the narrower one.** -/
theorem trim_trim : (sheet.trim n).trim m = sheet.trim (min n m) := by
  refine ext_of_ranked ?_ ?_
  · rw [ranked_trim, ranked_trim, ranked_trim, List.take_take, min_comm]
  · rw [hasDiscarded_trim, hasDiscarded_trim, hasDiscarded_trim, size_trim, Bool.or_assoc,
      ← Bool.decide_or]
    refine congrArg (sheet.hasDiscarded || ·) (decide_eq_decide.mpr ?_)
    omega

/-- Two trims discard as many entries as the narrower one. -/
theorem excess_add_excess_trim :
    sheet.excess n + (sheet.trim n).excess m = sheet.excess (min n m) := by
  unfold excess
  rw [size_trim]
  omega

/-- **A trim keeps exactly the first entries**, and it is determined by that; how the
entries are met, sorted and put in again does not show. Trims compose to the narrower
one, in either order, and a trim that is repeated does nothing. -/
theorem trims_keep_first :
    (∀ kept discarded, sheet.IsCutTo n kept discarded
        ↔ kept = sheet.trim n ∧ discarded = sheet.excess n)
      ∧ (∀ met sorted kept : List Tally, met.Perm sheet.entries → sorted.Perm met →
        sorted.Pairwise (fun a b => ¬ b.Precedes a) → kept.Perm (sorted.take n) →
        sheet.trim n = { counts := countsOf kept, hasDiscarded := (sheet.trim n).hasDiscarded })
      ∧ (sheet.trim n).trim m = sheet.trim (min n m)
      ∧ sheet.excess n + (sheet.trim n).excess m = sheet.excess (min n m)
      ∧ (sheet.trim n).trim m = (sheet.trim m).trim n
      ∧ (sheet.trim n).trim n = sheet.trim n
      ∧ (sheet.trim n).excess n = 0 := by
  refine ⟨fun kept discarded => isCutTo_iff, fun met sorted kept hmet hsorted ordered hkept => ?_,
    trim_trim sheet n m, excess_add_excess_trim sheet n m, ?_, ?_, ?_⟩
  · rw [← counts_trim_of_sorted hmet hsorted ordered hkept]
  · rw [trim_trim, trim_trim, min_comm]
  · rw [trim_trim, min_self]
  · unfold excess
    rw [size_trim]
    omega

/-- Of three values, two of which were seen equally often, the smaller of the two is
kept. -/
theorem trims_keep_first_three_values :
    let sheet := ((({} : TallySheet).addTimes "b" 2).addTimes "a" 2).addTimes "c" 7
    let met : List Tally := [⟨"b", 2⟩, ⟨"c", 7⟩, ⟨"a", 2⟩]
    let sorted : List Tally := [⟨"c", 7⟩, ⟨"a", 2⟩, ⟨"b", 2⟩]
    let kept : List Tally := [⟨"a", 2⟩, ⟨"c", 7⟩]
    met.Perm sheet.entries ∧ sorted.Perm met ∧ sorted.Pairwise (fun a b => ¬ b.Precedes a)
      ∧ kept.Perm (sorted.take 2) ∧ (sheet.trim 2).hasDiscarded = true
      ∧ sheet.trim 2 = { counts := countsOf kept, hasDiscarded := (sheet.trim 2).hasDiscarded }
      ∧ (sheet.trim 2).trim 1 = sheet.trim 1
      ∧ sheet.excess 2 + (sheet.trim 2).excess 1 = 2 := by
  intro sheet met sorted kept
  have hmet : met.Perm sheet.entries := by decide +kernel
  have hsorted : sorted.Perm met := by decide
  have ordered : sorted.Pairwise fun a b => ¬ b.Precedes a := by decide +kernel
  have hkept : kept.Perm (sorted.take 2) := by decide
  obtain ⟨hcut, horder, htwice, hexcess, -⟩ := trims_keep_first sheet 2 1
  have hflag := ((hcut _ _).mpr ⟨rfl, rfl⟩).flag
  exact ⟨hmet, hsorted, ordered, hkept, hflag.trans (by decide +kernel),
    horder met sorted kept hmet hsorted ordered hkept, htwice,
    hexcess.trans (by decide +kernel)⟩

end TallySheet

end TableProfile
