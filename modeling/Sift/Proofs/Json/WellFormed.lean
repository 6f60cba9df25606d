import Mathlib.Data.String.Basic
import Mathlib.Data.List.Nodup
import Sift.Json.Reader

/-!
# Well-formed values

The members of an object are kept as a list, which could hold one key twice. `Json.WellFormed` says
that this happens nowhere in a value: the members of each object, at any depth, stand in increasing
order of keys. A member is then what is found at its key (`Member.lookup_of_mem`). Reading text
gives well-formed values only (`Json.wellFormed_of_ofText?`), since a reader gathers members by
`Member.insert`, which keeps the order.
-/

namespace Sift

/-! ## Members in order of keys -/

namespace Member

theorem mem_of_lookup {key : String} {v : Json} {members : List Member}
    (h : lookup key members = some v) : ⟨key, v⟩ ∈ members := by
  induction members with
  | nil => exact absurd h (by simp [lookup])
  | cons m rest ih =>
    rw [lookup] at h
    split at h
    next hkey =>
      obtain ⟨_, _⟩ := m
      cases h
      cases hkey
      exact List.mem_cons_self
    next => exact List.mem_cons_of_mem _ (ih h)

theorem isSome_lookup_iff {key : String} {members : List Member} :
    (lookup key members).isSome ↔ key ∈ members.map Member.key := by
  induction members with
  | nil => simp [lookup]
  | cons m rest ih =>
    rw [lookup, List.map_cons, List.mem_cons]
    split
    next hkey => exact iff_of_true rfl (.inl hkey.symm)
    next hkey =>
      rw [ih]
      exact ⟨.inr, fun h => h.resolve_left (Ne.symm hkey)⟩

theorem Ascending.keys_nodup {members : List Member} (h : Ascending members) :
    (members.map Member.key).Nodup :=
  List.Pairwise.map Member.key (fun _ _ hlt heq => by
    rw [heq] at hlt
    exact String.lt_irrefl _ hlt) h

theorem not_isSome_lookup_of_lt {key : String} {members : List Member}
    (h : ∀ m ∈ members, m.key < key) : ¬(lookup key members).isSome := by
  rw [isSome_lookup_iff, List.mem_map]
  rintro ⟨m, hm, heq⟩
  have hlt := h m hm
  rw [heq] at hlt
  exact String.lt_irrefl _ hlt

theorem lookup_of_mem {members : List Member} (h : Ascending members) {m : Member}
    (hm : m ∈ members) : lookup m.key members = some m.value := by
  induction h with
  | nil => exact absurd hm List.not_mem_nil
  | @cons first rest hfirst _ ih =>
    rw [lookup]
    obtain rfl | hm := List.mem_cons.mp hm
    · rw [if_pos rfl]
    · have hne : first.key ≠ m.key := by
        intro heq
        have hlt := hfirst m hm
        rw [heq] at hlt
        exact String.lt_irrefl _ hlt
      rw [if_neg hne, ih hm]

/-! ### Adding a member -/

theorem mem_insert {new m : Member} {members : List Member} (h : m ∈ insert new members) :
    m = new ∨ m ∈ members := by
  induction members with
  | nil => exact .inl (List.mem_singleton.mp h)
  | cons first rest ih =>
    rw [insert] at h
    split at h
    · exact List.mem_cons.mp h
    · split at h
      · exact (List.mem_cons.mp h).imp_right (List.mem_cons_of_mem _)
      · obtain rfl | h := List.mem_cons.mp h
        · exact .inr List.mem_cons_self
        · exact (ih h).imp_right (List.mem_cons_of_mem _)

theorem Ascending.insert {members : List Member} (h : Ascending members) (new : Member) :
    Ascending (insert new members) := by
  induction h with
  | nil => exact List.pairwise_singleton _ _
  | @cons first rest hfirst hrest ih =>
    rw [Member.insert]
    split
    next hlt =>
      refine .cons (fun m hm => ?_) (.cons hfirst hrest)
      obtain rfl | hm := List.mem_cons.mp hm
      · exact hlt
      · exact String.lt_trans hlt (hfirst m hm)
    next hlt =>
      split
      next heq =>
        refine .cons (fun m hm => ?_) hrest
        rw [heq]
        exact hfirst m hm
      next hne =>
        refine .cons (fun m hm => ?_) ih
        obtain rfl | hm := mem_insert hm
        · exact lt_of_le_of_ne (not_lt.mp hlt) (Ne.symm hne)
        · exact hfirst m hm

theorem lookup_insert_self (new : Member) (members : List Member) :
    lookup new.key (insert new members) = some new.value := by
  induction members with
  | nil => exact if_pos rfl
  | cons first rest ih =>
    rw [insert]
    split
    · exact if_pos rfl
    · split
      next heq => exact if_pos rfl
      next hne => exact (if_neg (Ne.symm hne)).trans ih

theorem lookup_insert_of_ne {new : Member} {key : String} (h : new.key ≠ key)
    (members : List Member) : lookup key (insert new members) = lookup key members := by
  induction members with
  | nil => exact if_neg h
  | cons first rest ih =>
    rw [insert]
    split
    · exact if_neg h
    · split
      next heq => exact (if_neg h).trans (if_neg (heq ▸ h)).symm
      next => simp only [lookup, ih]

/-- A new key comes between the others, which stay. -/
theorem insert_split (new : Member) {members : List Member} (h : lookup new.key members = none) :
    ∃ before after, members = before ++ after ∧ insert new members = before ++ new :: after := by
  induction members with
  | nil => exact ⟨[], [], rfl, rfl⟩
  | cons first rest ih =>
    have hne : first.key ≠ new.key := by
      intro heq
      rw [lookup, if_pos heq] at h
      cases h
    rw [lookup, if_neg hne] at h
    by_cases hlt : new.key < first.key
    · exact ⟨[], first :: rest, rfl, if_pos hlt⟩
    · obtain ⟨before, after, hmembers, hinsert⟩ := ih h
      refine ⟨first :: before, after, by rw [hmembers, List.cons_append], ?_⟩
      rw [insert, if_neg hlt, if_neg hne.symm, hinsert, List.cons_append]

theorem insert_eq_append {new : Member} {members : List Member}
    (h : ∀ m ∈ members, m.key < new.key) : insert new members = members ++ [new] := by
  induction members with
  | nil => rfl
  | cons first rest ih =>
    obtain ⟨hfirst, hrest⟩ := List.forall_mem_cons.mp h
    rw [insert, if_neg (String.lt_asymm hfirst), if_neg (ne_of_gt hfirst), ih hrest]
    rfl

/-! ### Members gone through -/

/-- The keys of the members that are there are before those that are left, which ascend. -/
structure Precedes (done rest : List Member) : Prop where
  before : ∀ n ∈ done, ∀ m ∈ rest, n.key < m.key
  ascending : Ascending rest

theorem Ascending.precedes {members : List Member} (h : Ascending members) : Precedes [] members :=
  ⟨nofun, h⟩

theorem Precedes.last {done rest : List Member} {m : Member} (h : Precedes done (m :: rest)) :
    ∀ n ∈ done, n.key < m.key :=
  fun n hn => h.before n hn m List.mem_cons_self

theorem Precedes.next {done done' rest : List Member} {m : Member} (h : Precedes done (m :: rest))
    (hdone : ∀ n ∈ done', n.key = m.key ∨ n ∈ done) : Precedes done' rest := by
  obtain ⟨hfirst, hrest⟩ := List.pairwise_cons.mp h.ascending
  refine ⟨fun n hn m' hm' => ?_, hrest⟩
  obtain hkey | hn := hdone n hn
  · rw [hkey]
    exact hfirst m' hm'
  · exact h.before n hn m' (List.mem_cons_of_mem m hm')

end Member

/-! ## Values -/

/-- Members stand in increasing order of keys, in each object at any depth. -/
inductive Json.WellFormed : Json → Prop where
  | null : WellFormed .null
  | bool (b : Bool) : WellFormed (.bool b)
  | number (n : Number) : WellFormed (.number n)
  | string (s : String) : WellFormed (.string s)
  | array {elements : List Json} (parts : ∀ v ∈ elements, WellFormed v) :
      WellFormed (.array elements)
  | object {members : List Member} (ascending : Member.Ascending members)
      (parts : ∀ m ∈ members, WellFormed m.value) : WellFormed (.object members)

namespace Json.WellFormed

theorem of_mem {elements : List Json} (h : (Json.array elements).WellFormed) {v : Json}
    (hv : v ∈ elements) : v.WellFormed := by
  cases h with
  | array parts => exact parts v hv

theorem ascending_members {members : List Member} (h : (Json.object members).WellFormed) :
    Member.Ascending members := by
  cases h with
  | object ascending _ => exact ascending

theorem of_member {members : List Member} (h : (Json.object members).WellFormed) {m : Member}
    (hm : m ∈ members) : m.value.WellFormed := by
  cases h with
  | object _ parts => exact parts m hm

theorem of_lookup {members : List Member} (h : (Json.object members).WellFormed) {key : String}
    {v : Json} (hv : Member.lookup key members = some v) : v.WellFormed :=
  h.of_member (Member.mem_of_lookup hv)

theorem insert {members : List Member} (h : (Json.object members).WellFormed) {new : Member}
    (hnew : new.value.WellFormed) : (Json.object (Member.insert new members)).WellFormed := by
  refine .object (h.ascending_members.insert new) fun m hm => ?_
  obtain rfl | hm := Member.mem_insert hm
  · exact hnew
  · exact h.of_member hm

end Json.WellFormed

/-! ## What is read is well-formed -/

namespace Json.Reader

def Frame.WellFormed : Frame → Prop
  | .array done => (Json.array done).WellFormed
  | .object done _ => (Json.object done).WellFormed

def State.WellFormed : State → Prop
  | .value frames => ∀ f ∈ frames, f.WellFormed
  | .arrayStart frames => ∀ f ∈ frames, f.WellFormed
  | .arrayRest done frames => (Json.array done).WellFormed ∧ ∀ f ∈ frames, f.WellFormed
  | .objectStart frames => ∀ f ∈ frames, f.WellFormed
  | .key done frames => (Json.object done).WellFormed ∧ ∀ f ∈ frames, f.WellFormed
  | .colon done _ frames => (Json.object done).WellFormed ∧ ∀ f ∈ frames, f.WellFormed
  | .objectRest done frames => (Json.object done).WellFormed ∧ ∀ f ∈ frames, f.WellFormed
  | .complete v => v.WellFormed

def TokenWellFormed : Token → Prop
  | .scalar v => v.WellFormed
  | _ => True

theorem wellFormed_nil : (Json.array []).WellFormed :=
  .array nofun

theorem wellFormed_empty : (Json.object []).WellFormed :=
  .object .nil nofun

theorem wellFormed_deliver {v : Json} {frames : List Frame} (hv : v.WellFormed)
    (h : ∀ f ∈ frames, f.WellFormed) : (deliver v frames).WellFormed := by
  match frames with
  | [] => exact hv
  | .array done :: rest =>
    obtain ⟨hdone, hrest⟩ := List.forall_mem_cons.mp h
    exact ⟨.array (List.forall_mem_cons.mpr ⟨hv, fun _ => hdone.of_mem⟩), hrest⟩
  | .object done key :: rest =>
    obtain ⟨hdone, hrest⟩ := List.forall_mem_cons.mp h
    exact ⟨Json.WellFormed.insert hdone hv, hrest⟩

theorem wellFormed_startValue {token : Token} {frames : List Frame} {state : State}
    (htoken : TokenWellFormed token) (h : ∀ f ∈ frames, f.WellFormed)
    (hstate : startValue token frames = some state) : state.WellFormed := by
  unfold startValue at hstate
  split at hstate
  · split at hstate <;> cases hstate
    exact h
  · split at hstate <;> cases hstate
    exact h
  · cases hstate
    exact wellFormed_deliver (.string _) h
  · cases hstate
    exact wellFormed_deliver htoken h
  · cases hstate

theorem wellFormed_step {token : Token} {state next : State} (htoken : TokenWellFormed token)
    (h : state.WellFormed) (hnext : step state token = some next) : next.WellFormed := by
  unfold step at hnext
  split at hnext
  case h_1 => exact wellFormed_startValue htoken h hnext
  case h_2 =>
    cases hnext
    exact wellFormed_deliver wellFormed_nil h
  case h_3 =>
    have hframes : ∀ f ∈ Frame.array [] :: _, f.WellFormed :=
      List.forall_mem_cons.mpr ⟨wellFormed_nil, h⟩
    exact wellFormed_startValue htoken hframes hnext
  case h_4 =>
    cases hnext
    exact List.forall_mem_cons.mpr h
  case h_5 done frames =>
    cases hnext
    exact wellFormed_deliver (.array fun v hv => h.1.of_mem (List.mem_reverse.mp hv)) h.2
  case h_6 =>
    cases hnext
    exact wellFormed_deliver wellFormed_empty h
  case h_7 =>
    cases hnext
    exact ⟨wellFormed_empty, h⟩
  case h_8 =>
    cases hnext
    exact h
  case h_9 =>
    cases hnext
    exact List.forall_mem_cons.mpr h
  case h_10 =>
    cases hnext
    exact h
  case h_11 =>
    cases hnext
    exact wellFormed_deliver h.1 h.2
  case h_12 => cases hnext

theorem wellFormed_run {tokens : List Token} {state last : State}
    (htokens : ∀ token ∈ tokens, TokenWellFormed token) (h : state.WellFormed)
    (hlast : tokens.foldlM step state = some last) : last.WellFormed := by
  induction tokens generalizing state with
  | nil =>
    cases hlast
    exact h
  | cons token rest ih =>
    obtain ⟨htoken, hrest⟩ := List.forall_mem_cons.mp htokens
    rw [List.foldlM_cons] at hlast
    obtain ⟨next, hnext, hlast⟩ := Option.bind_eq_some_iff.mp hlast
    exact ih hrest (wellFormed_step htoken h hnext) hlast

theorem tokenWellFormed_of_next? {cs rest : List Char} {token : Token}
    (h : Token.next? cs = some (token, rest)) : TokenWellFormed token := by
  have hnumber : ∀ negative cs', (Token.number? negative cs').map
      (fun x => (Token.scalar (.number x.1), x.2)) = some (token, rest) →
      TokenWellFormed token := by
    intro negative cs' h
    obtain ⟨x, -, hx⟩ := Option.map_eq_some_iff.mp h
    cases hx
    exact .number _
  unfold Token.next? at h
  split at h
  case h_8 =>
    obtain ⟨x, -, hx⟩ := Option.map_eq_some_iff.mp h
    cases hx
    trivial
  case h_9 =>
    cases h
    exact .null
  case h_10 | h_11 =>
    cases h
    exact .bool _
  case h_12 => exact hnumber _ _ h
  case h_13 => exact hnumber _ _ h
  all_goals
    cases h
  all_goals trivial

theorem tokenWellFormed_of_tokensWithin? {fuel : Nat} {cs : List Char} {tokens : List Token}
    (h : Token.tokensWithin? fuel cs = some tokens) : ∀ token ∈ tokens, TokenWellFormed token := by
  fun_induction Token.tokensWithin? fuel cs generalizing tokens with
  | case1 =>
    cases h
    exact nofun
  | case2 => cases h
  | case3 cs fuel _ ih =>
    obtain ⟨⟨token, rest⟩, htoken, h⟩ := Option.bind_eq_some_iff.mp h
    obtain ⟨tokens', htokens, h⟩ := Option.bind_eq_some_iff.mp h
    cases h
    exact List.forall_mem_cons.mpr ⟨tokenWellFormed_of_next? htoken, ih rest htokens⟩

end Json.Reader

/-- A text that is read gives a well-formed value. -/
theorem Json.wellFormed_of_ofText? {text : String} {v : Json} (h : ofText? text = some v) :
    v.WellFormed := by
  unfold ofText? at h
  obtain ⟨tokens, htokens, h⟩ := Option.bind_eq_some_iff.mp h
  obtain ⟨last, hlast, h⟩ := Option.bind_eq_some_iff.mp h
  have hstart : (Reader.State.value []).WellFormed := fun _ hf => absurd hf List.not_mem_nil
  have hwf : last.WellFormed :=
    Reader.wellFormed_run (Reader.tokenWellFormed_of_tokensWithin? htokens) hstart hlast
  unfold Reader.State.result? at h
  split at h <;> cases h
  exact hwf

end Sift
