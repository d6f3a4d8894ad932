/-
Entries in the order of their names. Setting a name keeps the order, and entries in order are known by what each name
holds: there is one list of entries for each map.

- `Ascending`: the names ascend. `Ascending.set`: setting a name keeps that.
- `Ascending.ext`: entries in order that give every name the same value are the same.
-/
import ResourceInliner.Json.Value

namespace ResourceInliner.Entries

variable {α : Type}

/-- the names ascend, so no name comes twice -/
def Ascending (entries : Entries α) : Prop :=
  entries.Pairwise fun a b => a.1 < b.1

instance (entries : Entries α) : Decidable (Ascending entries) :=
  inferInstanceAs (Decidable (List.Pairwise _ _))

theorem get?_eq_none_of_lt {entries : Entries α} {name : String} (h : ∀ entry ∈ entries, name < entry.1) :
    get? entries name = none := by
  induction entries with
  | nil => rfl
  | cons entry rest ih =>
    obtain ⟨key, value⟩ := entry
    have hne : key ≠ name := by
      rintro rfl
      exact String.lt_irrefl _ (h _ List.mem_cons_self)
    rw [get?_cons, if_neg hne]
    exact ih fun entry hentry => h entry (List.mem_cons_of_mem _ hentry)

/-- the names after a `set`: the name itself, and those from before -/
theorem mem_set {entries : Entries α} {name : String} {value : α} {entry : String × α}
    (h : entry ∈ set entries name value) : entry.1 = name ∨ entry ∈ entries := by
  induction entries with
  | nil =>
    rw [set, List.mem_singleton] at h
    exact .inl (by rw [h])
  | cons first rest ih =>
    obtain ⟨key, old⟩ := first
    rw [set] at h
    split at h
    · rcases List.mem_cons.1 h with rfl | h
      · exact .inl rfl
      · exact .inr (List.mem_cons_of_mem _ h)
    · split at h
      · rcases List.mem_cons.1 h with rfl | h
        · exact .inl rfl
        · exact .inr h
      · rcases List.mem_cons.1 h with rfl | h
        · exact .inr List.mem_cons_self
        · exact (ih h).imp_right (List.mem_cons_of_mem _)

theorem Ascending.set {entries : Entries α} (h : Ascending entries) (name : String) (value : α) :
    Ascending (Entries.set entries name value) := by
  induction entries with
  | nil => exact List.pairwise_singleton _ _
  | cons first rest ih =>
    obtain ⟨key, old⟩ := first
    obtain ⟨hfirst, hrest⟩ := List.pairwise_cons.1 h
    rw [Entries.set]
    split
    · rename_i hname
      exact List.pairwise_cons.2 ⟨fun entry hentry => by rw [hname]; exact hfirst entry hentry, hrest⟩
    · rename_i hne
      split
      · rename_i hlt
        refine List.pairwise_cons.2 ⟨fun entry hentry => ?_, h⟩
        rcases List.mem_cons.1 hentry with rfl | hentry
        · exact hlt
        · exact String.lt_trans hlt (hfirst entry hentry)
      · rename_i hge
        refine List.pairwise_cons.2 ⟨fun entry hentry => ?_, ih hrest⟩
        rcases mem_set hentry with hname | hentry
        · have hle : key ≤ entry.1 := by rw [hname]; exact String.not_lt.1 hge
          refine Decidable.byContradiction fun hnot => hne ?_
          rw [← hname]
          exact String.le_antisymm (String.not_lt.1 hnot) hle
        · exact hfirst entry hentry

/-- no name that holds something comes before the first one -/
theorem Ascending.le_of_get? {key name : String} {old value : α} {rest : Entries α}
    (h : Ascending ((key, old) :: rest)) (hget : get? ((key, old) :: rest) name = some value) : key ≤ name := by
  refine String.not_lt.1 fun hlt => ?_
  rw [get?_eq_none_of_lt] at hget
  · cases hget
  · intro entry hentry
    rcases List.mem_cons.1 hentry with rfl | hentry
    · exact hlt
    · exact String.lt_trans hlt ((List.pairwise_cons.1 h).1 entry hentry)

/-- behind the first entry its name holds nothing -/
theorem Ascending.get?_rest {key : String} {old : α} {rest : Entries α} (h : Ascending ((key, old) :: rest)) :
    get? rest key = none :=
  get?_eq_none_of_lt (List.pairwise_cons.1 h).1

/-- **Main result.** Entries in order are known by what each name holds. -/
theorem Ascending.ext {a b : Entries α} (ha : Ascending a) (hb : Ascending b)
    (hsame : ∀ name, get? a name = get? b name) : a = b := by
  induction a generalizing b with
  | nil =>
    cases b with
    | nil => rfl
    | cons first b =>
      have := hsame first.1
      rw [get?_cons, if_pos rfl] at this
      cases this
  | cons first a ih =>
    obtain ⟨key, value⟩ := first
    cases b with
    | nil =>
      have := hsame key
      rw [get?_cons, if_pos rfl] at this
      cases this
    | cons second b =>
      obtain ⟨other, value'⟩ := second
      have hleft : get? ((key, value) :: a) other = some value' := by rw [hsame, get?_cons, if_pos rfl]
      have hright : get? ((other, value') :: b) key = some value := by rw [← hsame, get?_cons, if_pos rfl]
      obtain rfl := String.le_antisymm (ha.le_of_get? hleft) (hb.le_of_get? hright)
      have hvalue := hsame key
      rw [get?_cons, if_pos rfl, get?_cons, if_pos rfl, Option.some.injEq] at hvalue
      rw [hvalue, ih (List.pairwise_cons.1 ha).2 (List.pairwise_cons.1 hb).2]
      intro name
      have := hsame name
      rw [get?_cons, get?_cons] at this
      split at this
      · rename_i hname
        rw [← hname, ha.get?_rest, hb.get?_rest]
      · exact this

end ResourceInliner.Entries
