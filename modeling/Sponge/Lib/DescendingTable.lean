import Mathlib.Data.List.MinMax
import Mathlib.Data.List.Sort

/-!
# Tables in descending order

A table is kept in descending order of a rank, and an entry goes behind those
of the same rank.  The first entry with a property is then the earliest
inserted one of those with the highest rank.
-/

namespace Sponge.Lib

universe u v

variable {α : Type u} {β : Type v} [LinearOrder β] (rank : α → β)

/-- Insert an entry before the first one of a lower rank. -/
def insertDescending (table : List α) (entry : α) : List α :=
  table.orderedInsert (fun new old => rank old < rank new) entry

def Descending (table : List α) : Prop :=
  table.Pairwise fun earlier later => rank later ≤ rank earlier

variable {rank} {table : List α} {entry : α}

theorem insertDescending_of_lt {first : α} {rest : List α} (lower : rank first < rank entry) :
    insertDescending rank (first :: rest) entry = entry :: first :: rest := by
  rw [insertDescending, List.orderedInsert_cons, if_pos lower]

theorem insertDescending_of_le {first : α} {rest : List α} (higher : rank entry ≤ rank first) :
    insertDescending rank (first :: rest) entry = first :: insertDescending rank rest entry := by
  rw [insertDescending, List.orderedInsert_cons, if_neg (not_lt_of_ge higher)]
  rfl

theorem mem_insertDescending {other : α} :
    other ∈ insertDescending rank table entry ↔ other = entry ∨ other ∈ table :=
  List.mem_orderedInsert _

theorem Descending.insert (descending : Descending rank table) :
    Descending rank (insertDescending rank table entry) := by
  induction table with
  | nil => exact List.pairwise_singleton _ _
  | cons first rest inductionHypothesis =>
      obtain ⟨top, below⟩ := List.pairwise_cons.mp descending
      rcases lt_or_ge (rank first) (rank entry) with lower | higher
      · rw [insertDescending_of_lt lower]
        refine List.pairwise_cons.mpr ⟨?_, descending⟩
        intro other membership
        rcases List.mem_cons.mp membership with rfl | later
        · exact lower.le
        · exact (top other later).trans lower.le
      · rw [insertDescending_of_le higher]
        refine List.pairwise_cons.mpr ⟨?_, inductionHypothesis below⟩
        intro other membership
        rcases mem_insertDescending.mp membership with rfl | later
        · exact higher
        · exact top other later

/-- The new entry is found if it has the property and nothing of the same or a
higher rank has. -/
theorem Descending.find?_insert (descending : Descending rank table) (p : α → Bool) :
    (insertDescending rank table entry).find? p =
      if p entry then
        Option.casesOn (table.find? p) (some entry) fun found =>
          if rank found < rank entry then some entry else some found
      else table.find? p := by
  induction table with
  | nil => cases has : p entry <;> simp [insertDescending, has]
  | cons first rest inductionHypothesis =>
      obtain ⟨top, below⟩ := List.pairwise_cons.mp descending
      rcases lt_or_ge (rank first) (rank entry) with lower | higher
      · rw [insertDescending_of_lt lower, List.find?_cons]
        cases has : p entry with
        | false => rfl
        | true =>
            cases found : (first :: rest).find? p with
            | none => rfl
            | some other =>
                have below : rank other ≤ rank first := by
                  rcases List.mem_cons.mp (List.mem_of_find?_eq_some found) with rfl | later
                  · exact le_refl _
                  · exact top other later
                simp [below.trans_lt lower]
      · rw [insertDescending_of_le higher, List.find?_cons, List.find?_cons]
        cases p first with
        | false => exact inductionHypothesis below
        | true => simp [not_lt_of_ge higher]

theorem mem_foldl_insert {other : α} {entries : List α} :
    other ∈ entries.foldl (insertDescending rank) table ↔ other ∈ entries ∨ other ∈ table := by
  induction entries generalizing table with
  | nil => simp
  | cons entry rest inductionHypothesis =>
      rw [List.foldl_cons, inductionHypothesis, mem_insertDescending, List.mem_cons]
      exact ⟨by tauto, by tauto⟩

theorem descending_foldl_insert (entries : List α) :
    Descending rank (entries.foldl (insertDescending rank) []) := by
  induction entries using List.reverseRecOn with
  | nil => exact List.Pairwise.nil
  | append_singleton entries entry inductionHypothesis =>
      rw [List.foldl_append]
      exact inductionHypothesis.insert

/-- Looking for a property in the table finds the first of the highest rank. -/
theorem find?_foldl_insert (p : α → Bool) (entries : List α) :
    (entries.foldl (insertDescending rank) []).find? p = (entries.filter p).argmax rank := by
  induction entries using List.reverseRecOn with
  | nil => rfl
  | append_singleton entries entry inductionHypothesis =>
      rw [List.foldl_append, List.foldl_cons, List.foldl_nil,
        (descending_foldl_insert entries).find?_insert, inductionHypothesis, List.filter_append]
      cases has : p entry with
      | false => simp [has]
      | true => simp [has, List.argmax_concat]

/-- The first entry of the highest rank among those with a property. -/
structure IsFirstHighest (rank : α → β) (p : α → Prop) (entries : List α) (found : α) : Prop where
  has : p found
  place : ∃ before after, entries = before ++ found :: after ∧
    (∀ other ∈ before, p other → rank other < rank found) ∧
    ∀ other ∈ after, p other → rank other ≤ rank found

theorem IsFirstHighest.concat {p : α → Prop} {entries : List α} {found : α}
    (first : IsFirstHighest rank p entries found) (lower : p entry → rank entry ≤ rank found) :
    IsFirstHighest rank p (entries ++ [entry]) found := by
  obtain ⟨has, before, after, rfl, below, belowOrEqual⟩ := first
  refine ⟨has, before, after ++ [entry], by simp, below, ?_⟩
  exact List.forall_mem_append.mpr ⟨belowOrEqual, List.forall_mem_singleton.mpr lower⟩

theorem isFirstHighest_concat {p : α → Prop} {entries : List α} (has : p entry)
    (below : ∀ other ∈ entries, p other → rank other < rank entry) :
    IsFirstHighest rank p (entries ++ [entry]) entry :=
  ⟨has, entries, [], rfl, below, List.forall_mem_nil _⟩

theorem isFirstHighest_of_argmax {p : α → Prop} [DecidablePred p] {entries : List α} {found : α}
    (highest : (entries.filter (p ·)).argmax rank = some found) :
    IsFirstHighest rank p entries found := by
  induction entries using List.reverseRecOn generalizing found with
  | nil => contradiction
  | append_singleton entries entry inductionHypothesis =>
      rw [List.filter_append] at highest
      by_cases has : p entry
      · simp only [List.filter_cons, has, decide_true, if_true, List.filter_nil,
          List.argmax_concat] at highest
        cases top : (entries.filter (p ·)).argmax rank with
        | none =>
            have empty := List.filter_eq_nil_iff.mp (List.argmax_eq_none.mp top)
            rw [top] at highest
            obtain rfl := Option.some.inj highest
            refine isFirstHighest_concat has fun other membership otherHas => ?_
            exact absurd (decide_eq_true otherHas) (empty other membership)
        | some first =>
            rw [top] at highest
            have chosen : (if rank first < rank entry then some entry else some first) =
                some found := highest
            rcases lt_or_ge (rank first) (rank entry) with lower | higher
            · rw [if_pos lower] at chosen
              obtain rfl := Option.some.inj chosen
              refine isFirstHighest_concat has fun other membership otherHas => ?_
              have candidate : other ∈ entries.filter (p ·) :=
                List.mem_filter.mpr ⟨membership, decide_eq_true otherHas⟩
              exact (List.le_of_mem_argmax candidate top).trans_lt lower
            · rw [if_neg (not_lt_of_ge higher)] at chosen
              obtain rfl := Option.some.inj chosen
              exact (inductionHypothesis top).concat fun _ => higher
      · have unchanged : (entries.filter (p ·)).argmax rank = some found := by
          simpa [has] using highest
        exact (inductionHypothesis unchanged).concat fun entryHas => absurd entryHas has

end Sponge.Lib
