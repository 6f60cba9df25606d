import Mathlib.Data.List.Induction
import Sift.Proofs.Json.WellFormed
import Sift.Proofs.Sequence.Laziness

/-!
# Making an index

An index is made of the items that come out of a chain: each is filed under its key, with the value
that is computed of it. A stage may fail on an item, its key may be taken, and its value may fail; the
first item that offends in one of these ways (`Fate.Offends`) ends the index. Where none does, the
index holds the members of all items, in order of keys. `Chain.toIndex_first_offence` states this with
what has been noted by then: the value of each item before was computed once, in order, and no value
for a key that is taken.
-/

namespace Sift

/-! ## Members filed one by one -/

namespace Member

theorem sort_concat (members : List Member) (m : Member) :
    sort (members ++ [m]) = insert m (sort members) := by
  rw [sort, List.foldl_append]
  rfl

theorem ascending_sort (members : List Member) : Ascending (sort members) := by
  induction members using List.reverseRecOn with
  | nil => exact .nil
  | append_singleton members m ih =>
    rw [sort_concat]
    exact ih.insert m

theorem perm_insert {new : Member} {members : List Member} (h : new.key ∉ members.map key) :
    (insert new members).Perm (new :: members) := by
  rw [← isSome_lookup_iff, Option.not_isSome_iff_eq_none] at h
  obtain ⟨before, after, rfl, hinsert⟩ := insert_split new h
  rw [hinsert]
  exact List.perm_middle

theorem perm_sort {members : List Member} (h : (members.map key).Nodup) :
    (sort members).Perm members := by
  induction members using List.reverseRecOn with
  | nil => exact .nil
  | append_singleton members m ih =>
    rw [List.map_append, List.map_singleton, ← List.concat_eq_append, List.nodup_concat] at h
    have hperm := ih h.2
    have hnew : m.key ∉ (sort members).map key := fun hmem => h.1 ((hperm.map key).mem_iff.mp hmem)
    rw [sort_concat]
    exact (perm_insert hnew).trans
      ((hperm.cons m).trans (List.perm_append_singleton m members).symm)

theorem isSome_lookup_sort_iff {members : List Member} (h : (members.map key).Nodup) {k : String} :
    (lookup k (sort members)).isSome ↔ k ∈ members.map key := by
  rw [isSome_lookup_iff]
  exact ((perm_sort h).map key).mem_iff

end Member

namespace Chain

/-! ## Combining as a fold over fates -/

section
variable {ω ε α σ : Type}

def stepFate (step : σ → α → Recorded ω ε σ) (s : σ) (fate : Fate ω ε α) : Recorded ω ε σ := do
  let arrived : Option α ← fate
  arrived.elim (pure s) (step s)

theorem walkFates_reduceVisit (step : σ → α → Recorded ω ε σ) (s : σ) (i : Nat)
    (fates : List (Fate ω ε α)) :
    Prod.fst <$> walkFates (reduceVisit fun s a _ => step s a) (s, i) fates =
      fates.foldlM (stepFate step) s := by
  induction fates generalizing s i with
  | nil => exact map_pure Prod.fst (s, i)
  | cons fate rest ih =>
    rw [walkFates, visitFate, List.foldlM_cons, stepFate, map_bind, bind_assoc, bind_assoc]
    congr 1
    funext arrived
    cases arrived with
    | none => exact ih s i
    | some a =>
      simp only [Option.elim_some]
      rw [bind_map_left, reduceVisit, bind_assoc]
      congr 1
      funext s'
      exact ih s' (i + 1)

/-- Where the count of items does not matter, combining is a fold over the fates of all items. -/
theorem reduce_eq_foldlM (chain : Chain (Recorded ω ε) α) (step : σ → α → Recorded ω ε σ) (s : σ) :
    chain.reduce (fun s a _ => step s a) s = chain.fates.foldlM (stepFate step) s := by
  rw [reduce_eq_walk, walk_eq_fates, walkFates_reduceVisit]

end

/-! ## Steps of an index -/

variable {ω α : Type} {key : α → String} {value : α → Recorded ω Error Json}

/-- File an item under its key, with the value that is computed of it. -/
def fileItem (key : α → String) (value : α → Recorded ω Error Json) (index : List Member) (a : α) :
    Recorded ω Error (List Member) := do
  if (Member.lookup (key a) index).isSome then
    monadLift (Except.error (.duplicateKey (key a)) : Except Error Unit)
  let v ← value a
  pure (Member.insert ⟨key a, v⟩ index)

theorem toIndex_eq_foldlM (chain : Chain (Recorded ω Error) α) :
    chain.toIndex key value = chain.fates.foldlM (stepFate (fileItem key value)) [] :=
  reduce_eq_foldlM chain (fileItem key value) []

theorem fileItem_of_isSome {index : List Member} {a : α}
    (h : (Member.lookup (key a) index).isSome = true) :
    fileItem key value index a = ⟨[], .error (.duplicateKey (key a))⟩ := by
  rw [fileItem, if_pos h]
  rfl

theorem fileItem_of_not_isSome {index : List Member} {a : α}
    (h : ¬(Member.lookup (key a) index).isSome = true) :
    fileItem key value index a = (fun v => Member.insert ⟨key a, v⟩ index) <$> value a := by
  rw [fileItem, if_neg h]
  exact bind_pure_comp (fun v => Member.insert ⟨key a, v⟩ index) (value a)

end Chain

/-! ## Items under distinct keys -/

/-- The entries of items: their keys, which are pairwise distinct, and the values computed of them,
where no computation fails. -/
structure Keyed {ω α : Type} (key : α → String) (value : α → Recorded ω Error Json) (ys : List α)
    (entries : List Member) : Prop where
  distinct : (ys.map key).Nodup
  entries : List.Forall₂ (fun a m => m.key = key a ∧ (value a).result = .ok m.value) ys entries

section
variable {ω α : Type} {key : α → String} {value : α → Recorded ω Error Json} {a : α} {ys : List α}
  {entries : List Member}

theorem Keyed.keys (h : Keyed key value ys entries) : entries.map Member.key = ys.map key := by
  have hentries := h.entries
  clear h
  induction hentries with
  | nil => rfl
  | cons hm _ ih => rw [List.map_cons, List.map_cons, hm.1, ih]

theorem keyed_nil : Keyed key value [] [] :=
  ⟨.nil, .nil⟩

theorem keyed_concat_iff : Keyed key value (ys ++ [a]) entries ↔ ∃ done v,
    entries = done ++ [⟨key a, v⟩] ∧ Keyed key value ys done ∧ key a ∉ ys.map key ∧
      (value a).result = .ok v := by
  have hnodup : ((ys ++ [a]).map key).Nodup ↔ key a ∉ ys.map key ∧ (ys.map key).Nodup := by
    rw [List.map_append, List.map_singleton, ← List.concat_eq_append, List.nodup_concat]
  constructor
  · rintro ⟨hdistinct, hentries⟩
    obtain ⟨hkey, hdistinct⟩ := hnodup.mp hdistinct
    -- read from the end, the entry of the last item comes first
    rw [← List.forall₂_reverse_iff, List.reverse_concat, List.forall₂_cons_left_iff] at hentries
    obtain ⟨⟨_, v⟩, done, ⟨rfl, hv⟩, hdone, hreverse⟩ := hentries
    rw [← List.reverse_reverse done, List.forall₂_reverse_iff] at hdone
    exact ⟨done.reverse, v, List.reverse_eq_cons_iff.mp hreverse, ⟨hdistinct, hdone⟩, hkey, hv⟩
  · rintro ⟨done, v, rfl, ⟨hdistinct, hdone⟩, hkey, hv⟩
    exact ⟨hnodup.mpr ⟨hkey, hdistinct⟩, List.rel_append hdone (.cons ⟨rfl, hv⟩ .nil)⟩

theorem Keyed.isSome_lookup_iff (h : Keyed key value ys entries) {k : String} :
    (Member.lookup k (Member.sort entries)).isSome ↔ k ∈ ys.map key := by
  have hdistinct := h.distinct
  rw [← h.keys] at hdistinct ⊢
  exact Member.isSome_lookup_sort_iff hdistinct

end

/-! ## One item after another -/

namespace Fate

variable {ω α : Type}

/-- What is noted of an item: by the stages, and if it comes out, by one call on it. -/
def logWith {ε β : Type} (value : α → Recorded ω ε β) (fate : Fate ω ε α) : List ω :=
  match fate.result with
  | .ok (some a) => fate.log ++ (value a).log
  | _ => fate.log

/-- How an item offends after the items `ys`: a stage fails on it, its key is one of theirs, or its key
is new and its value fails. What is noted of it holds a call for the value in the last case only. -/
inductive Offends (key : α → String) (value : α → Recorded ω Error Json) (ys : List α)
    (fate : Fate ω Error α) : Error → List ω → Prop
  | stage {e : Error} (h : fate.result = .error e) : Offends key value ys fate e fate.log
  | key {a : α} (h : fate.result = .ok (some a)) (hkey : key a ∈ ys.map key) :
    Offends key value ys fate (.duplicateKey (key a)) fate.log
  | value {a : α} {e : Error} (h : fate.result = .ok (some a)) (hkey : key a ∉ ys.map key)
    (hvalue : (value a).result = .error e) :
    Offends key value ys fate e (fate.log ++ (value a).log)

theorem outcome_concat_eq_ok {ε : Type} {fates : List (Fate ω ε α)} {fate : Fate ω ε α}
    {zs : List α} : outcome (fates ++ [fate]) = .ok zs ↔ ∃ ys arrived,
      outcome fates = .ok ys ∧ fate.result = .ok arrived ∧ zs = ys ++ arrived.toList := by
  induction fates generalizing zs with
  | nil =>
    rw [List.nil_append, outcome_cons_eq_ok]
    constructor
    · rintro ⟨arrived, others, harrived, hothers, rfl⟩
      cases hothers
      exact ⟨[], arrived, rfl, harrived, List.append_nil _⟩
    · rintro ⟨ys, arrived, hys, harrived, rfl⟩
      cases hys
      exact ⟨arrived, [], harrived, rfl, (List.append_nil _).symm⟩
  | cons first rest ih =>
    rw [List.cons_append, outcome_cons_eq_ok]
    constructor
    · rintro ⟨came, others, hcame, hothers, rfl⟩
      obtain ⟨ys, arrived, hys, harrived, rfl⟩ := ih.mp hothers
      exact ⟨came.toList ++ ys, arrived, outcome_cons_eq_ok.mpr ⟨came, ys, hcame, hys, rfl⟩,
        harrived, (List.append_assoc ..).symm⟩
    · rintro ⟨_, arrived, hsplit, harrived, rfl⟩
      obtain ⟨came, ys, hcame, hys, rfl⟩ := outcome_cons_eq_ok.mp hsplit
      exact ⟨came, ys ++ arrived.toList, hcame, ih.mpr ⟨ys, arrived, hys, harrived, rfl⟩,
        List.append_assoc ..⟩

end Fate

/-- After items that are filed, an item does not come out, or is filed too, or offends. -/
theorem Keyed.next {ω α : Type} {key : α → String} {value : α → Recorded ω Error Json} {ys : List α}
    {entries : List Member} (h : Keyed key value ys entries) (fate : Fate ω Error α) :
    (∃ arrived entries', fate.result = .ok arrived ∧
      Keyed key value (ys ++ arrived.toList) entries') ∨
      ∃ e log, fate.Offends key value ys e log := by
  cases hfate : fate.result with
  | error e => exact .inr ⟨e, fate.log, .stage hfate⟩
  | ok arrived =>
    cases arrived with
    | none => exact .inl ⟨none, entries, rfl, (List.append_nil ys).symm ▸ h⟩
    | some a =>
      by_cases hkey : key a ∈ ys.map key
      · exact .inr ⟨_, _, .key hfate hkey⟩
      · cases hvalue : (value a).result with
        | error e => exact .inr ⟨_, _, .value hfate hkey hvalue⟩
        | ok v => exact .inl ⟨some a, _, rfl, keyed_concat_iff.mpr ⟨_, v, rfl, h, hkey, hvalue⟩⟩

namespace Chain

variable {ω α : Type} {key : α → String} {value : α → Recorded ω Error Json} {fate : Fate ω Error α}
  {ys : List α} {entries : List Member}

theorem stepFate_none (h : fate.result = .ok none) (index : List Member) :
    stepFate (fileItem key value) index fate = ⟨fate.logWith value, .ok index⟩ := by
  rw [stepFate, Recorded.bind_of_ok h, Fate.logWith, h]
  exact congrArg (Recorded.mk · _) (List.append_nil fate.log)

theorem stepFate_some {a : α} (h : fate.result = .ok (some a)) (hkeyed : Keyed key value ys entries)
    (hkey : key a ∉ ys.map key) {v : Json} (hv : (value a).result = .ok v) :
    stepFate (fileItem key value) (Member.sort entries) fate =
      ⟨fate.logWith value, .ok (Member.sort (entries ++ [⟨key a, v⟩]))⟩ := by
  rw [← hkeyed.isSome_lookup_iff] at hkey
  rw [stepFate, Recorded.bind_of_ok h, Option.elim_some, fileItem_of_not_isSome hkey,
    Recorded.map_eq, hv, Member.sort_concat, Fate.logWith, h]
  rfl

theorem stepFate_offends (hkeyed : Keyed key value ys entries) {e : Error} {log : List ω}
    (h : fate.Offends key value ys e log) :
    stepFate (fileItem key value) (Member.sort entries) fate = ⟨log, .error e⟩ := by
  cases h with
  | stage h => exact Recorded.bind_of_error h _
  | key h hkey =>
    rw [← hkeyed.isSome_lookup_iff] at hkey
    rw [stepFate, Recorded.bind_of_ok h, Option.elim_some, fileItem_of_isSome hkey]
    exact congrArg (Recorded.mk · _) (List.append_nil fate.log)
  | value h hkey hvalue =>
    rw [← hkeyed.isSome_lookup_iff] at hkey
    rw [stepFate, Recorded.bind_of_ok h, Option.elim_some, fileItem_of_not_isSome hkey,
      Recorded.map_eq, hvalue]
    rfl

/-- Items that come out under distinct keys, and whose values do not fail, are all filed. -/
theorem foldlM_fileItem {fates : List (Fate ω Error α)} (hys : Fate.outcome fates = .ok ys)
    (hkeyed : Keyed key value ys entries) :
    fates.foldlM (stepFate (fileItem key value)) [] =
      ⟨fates.flatMap (Fate.logWith value), .ok (Member.sort entries)⟩ := by
  -- members are inserted in the order of items, so the induction adds an item at the end
  induction fates using List.reverseRecOn generalizing ys entries with
  | nil =>
    cases hys
    cases hkeyed.entries
    rfl
  | append_singleton fates fate ih =>
    obtain ⟨before, arrived, hbefore, harrived, rfl⟩ := Fate.outcome_concat_eq_ok.mp hys
    simp only [List.foldlM_append, List.foldlM_cons, List.foldlM_nil, bind_pure]
    rw [List.flatMap_append, List.flatMap_singleton]
    cases arrived with
    | none =>
      rw [Option.toList_none, List.append_nil] at hkeyed
      rw [ih hbefore hkeyed, Recorded.bind_of_ok rfl, stepFate_none harrived]
    | some a =>
      obtain ⟨done, v, rfl, hdone, hkey, hv⟩ := keyed_concat_iff.mp hkeyed
      rw [ih hbefore hdone, Recorded.bind_of_ok rfl, stepFate_some harrived hdone hkey hv]

/-- The item at position `n` offends, and no item before it does. -/
def OffendsAt (chain : Chain (Recorded ω Error) α) (key : α → String)
    (value : α → Recorded ω Error Json) (n : Nat) (e : Error) (log : List ω) : Prop :=
  ∃ ys entries fate, chain.Reaches n ys fate ∧ Keyed key value ys entries ∧
    fate.Offends key value ys e log

theorem Reaches.split {ω ε α : Type} {chain : Chain (Recorded ω ε) α} {n : Nat} {ys : List α}
    {fate : Fate ω ε α} (h : chain.Reaches n ys fate) :
    chain.fates = chain.fates.take n ++ fate :: chain.fates.drop (n + 1) := by
  obtain ⟨hn, hfate⟩ := List.getElem?_eq_some_iff.mp h.item
  rw [← hfate, ← List.drop_eq_getElem_cons hn, List.take_append_drop]

/-- The items before the one that offends are filed; nothing is run on a later item. -/
theorem OffendsAt.toIndex_eq {chain : Chain (Recorded ω Error) α} {n : Nat} {e : Error}
    {log : List ω} (h : chain.OffendsAt key value n e log) :
    chain.toIndex key value =
      ⟨(chain.fates.take n).flatMap (Fate.logWith value) ++ log, .error e⟩ := by
  obtain ⟨ys, entries, fate, hreaches, hkeyed, hoffends⟩ := h
  have hstep := stepFate_offends hkeyed hoffends
  rw [toIndex_eq_foldlM, hreaches.split, List.foldlM_append,
    foldlM_fileItem hreaches.outcome hkeyed, Recorded.bind_of_ok rfl, List.foldlM_cons, hstep,
    Recorded.bind_of_error rfl, ← hreaches.split]

theorem keyed_or_offends (key : α → String) (value : α → Recorded ω Error Json)
    (fates : List (Fate ω Error α)) :
    (∃ ys entries, Fate.outcome fates = .ok ys ∧ Keyed key value ys entries) ∨
      ∃ n ys entries fate e log, Fate.outcome (fates.take n) = .ok ys ∧ fates[n]? = some fate ∧
        Keyed key value ys entries ∧ fate.Offends key value ys e log := by
  induction fates using List.reverseRecOn with
  | nil => exact .inl ⟨[], [], rfl, keyed_nil⟩
  | append_singleton fates fate ih =>
    obtain ⟨ys, entries, hys, hkeyed⟩ | ⟨n, ys, entries, first, e, log, hys, hfirst, hoffends⟩ := ih
    · obtain ⟨arrived, entries', harrived, hnext⟩ | ⟨e, log, hoffends⟩ := hkeyed.next fate
      · have hall := Fate.outcome_concat_eq_ok.mpr ⟨ys, arrived, hys, harrived, rfl⟩
        exact .inl ⟨_, entries', hall, hnext⟩
      · refine .inr ⟨fates.length, ys, entries, fate, e, log, ?_, ?_, hkeyed, hoffends⟩
        · rwa [List.take_left]
        · exact List.getElem?_concat_length
    · -- an item more does not change which one offends first
      have hn : n < fates.length := (List.getElem?_eq_some_iff.mp hfirst).1
      have htake : (fates ++ [fate]).take n = fates.take n := List.take_append_of_le_length hn.le
      have hget : (fates ++ [fate])[n]? = fates[n]? := List.getElem?_append_left hn
      rw [← htake] at hys
      rw [← hget] at hfirst
      exact .inr ⟨n, ys, entries, first, e, log, hys, hfirst, hoffends⟩

/-- An index is made of the items that come out of a chain if no item offends, and holds then what
is computed of all of them, in order of keys. Otherwise it fails as the first item that offends does.
The record shows the calls for values: one for each item that is filed, in order, and for the item that
offends only if its value is what fails. -/
theorem toIndex_first_offence (chain : Chain (Recorded ω Error) α) (key : α → String)
    (value : α → Recorded ω Error Json) :
    (∀ ys entries, chain.staged = .ok ys → Keyed key value ys entries →
      ∃ index, chain.toIndex key value =
          ⟨chain.fates.flatMap (Fate.logWith value), .ok index⟩ ∧
        Member.Ascending index ∧ index.Perm entries) ∧
    (∀ n e log, chain.OffendsAt key value n e log →
      chain.toIndex key value =
        ⟨(chain.fates.take n).flatMap (Fate.logWith value) ++ log, .error e⟩) ∧
    ((∃ index, (chain.toIndex key value).result = .ok index) ↔
      ∃ ys entries, chain.staged = .ok ys ∧ Keyed key value ys entries) ∧
    ∀ e, (chain.toIndex key value).result = .error e ↔
      ∃ n log, chain.OffendsAt key value n e log := by
  have hfiled (ys entries) (hys : chain.staged = .ok ys) (hkeyed : Keyed key value ys entries) :
      chain.toIndex key value =
        ⟨chain.fates.flatMap (Fate.logWith value), .ok (Member.sort entries)⟩ := by
    rw [toIndex_eq_foldlM]
    exact foldlM_fileItem (staged_eq_ok_iff.mp hys) hkeyed
  have htotal : (∃ ys entries, chain.staged = .ok ys ∧ Keyed key value ys entries) ∨
      ∃ n e log, chain.OffendsAt key value n e log := by
    obtain ⟨ys, entries, hys, hkeyed⟩ | ⟨n, ys, entries, fate, e, log, hys, hitem, hoffends⟩ :=
      keyed_or_offends key value chain.fates
    · exact .inl ⟨ys, entries, staged_eq_ok_iff.mpr hys, hkeyed⟩
    · exact .inr ⟨n, e, log, ys, entries, fate, .of_outcome hys hitem, hoffends⟩
  refine ⟨fun ys entries hys hkeyed => ?_, fun n e log h => h.toIndex_eq, ?_, fun e => ?_⟩
  · refine ⟨_, hfiled ys entries hys hkeyed, Member.ascending_sort entries, Member.perm_sort ?_⟩
    rw [hkeyed.keys]
    exact hkeyed.distinct
  · constructor
    · rintro ⟨index, hindex⟩
      refine htotal.resolve_right ?_
      rintro ⟨n, e, log, h⟩
      rw [h.toIndex_eq] at hindex
      cases hindex
    · rintro ⟨ys, entries, hys, hkeyed⟩
      exact ⟨_, congrArg Recorded.result (hfiled ys entries hys hkeyed)⟩
  · constructor
    · intro he
      obtain ⟨ys, entries, hys, hkeyed⟩ | ⟨n, e', log, h⟩ := htotal
      · rw [hfiled ys entries hys hkeyed] at he
        cases he
      · refine ⟨n, log, ?_⟩
        rw [h.toIndex_eq] at he
        cases he
        exact h
    · rintro ⟨n, log, h⟩
      rw [h.toIndex_eq]

def notedValue (k : String) : Recorded String Error Json := do
  Recorded.note k
  pure (.string k)

/-- Two items under two keys are filed, and a third one under the first key again ends the index. -/
theorem toIndex_first_offence_repeated :
    (∃ index, (Chain.items ["y", "x"]).toIndex id notedValue = ⟨["y", "x"], .ok index⟩ ∧
      Member.Ascending index ∧ index.Perm [⟨"y", .string "y"⟩, ⟨"x", .string "x"⟩]) ∧
    (Chain.items ["y", "x", "y"]).toIndex id notedValue =
      ⟨["y", "x"], .error (.duplicateKey "y")⟩ := by
  have hkeyed : Keyed id notedValue ["y", "x"] [⟨"y", .string "y"⟩, ⟨"x", .string "x"⟩] :=
    ⟨by decide, .cons ⟨rfl, rfl⟩ (.cons ⟨rfl, rfl⟩ .nil)⟩
  have hreaches : (Chain.items ["y", "x", "y"]).Reaches 2 ["y", "x"]
      (Fate.start "y" : Fate String Error String) := ⟨rfl, rfl⟩
  have hoffends : Fate.Offends id notedValue ["y", "x"] (Fate.start "y") (.duplicateKey "y") [] :=
    .key rfl List.mem_cons_self
  exact ⟨(toIndex_first_offence (.items ["y", "x"]) id notedValue).1 _ _ rfl hkeyed,
    (toIndex_first_offence (.items ["y", "x", "y"]) id notedValue).2.1 2 _ []
      ⟨_, _, _, hreaches, hkeyed, hoffends⟩⟩

end Chain

end Sift
