import Sift.Proofs.Sequence.Chain
import Sift.Proofs.Sequence.Filter

/-!
# The calls of a test

A combinator over a sequence calls its test on one item after the other. How far it goes, and what it
ends with, is decided by the results of the test on all items (`results`): a search by the first one
that is not as the search goes on with, counting and filtering by the first failure. `calling` notes
each call of a test with the item and the index that it is given, and `decided_by_first` gives for each
combinator the calls and the end. Consuming a chain of items that may fail is the same, with the items
as the first part of the test (`Chain.all_ofRuns`, `Chain.any_ofRuns`, `Chain.single_ofRuns`).
-/

namespace Sift

namespace Sequence

/-! ## Results -/

section
variable {ε α : Type}

/-- The test, with a note of each of its calls. -/
def calling (test : α → Nat → Except ε Bool) (a : α) (i : Nat) : Recorded (α × Nat) ε Bool := do
  Recorded.note (a, i)
  Recorded.ofExcept (test a i)

/-- The results of a test on all items, the first one having index `i`. -/
def results (test : α → Nat → Except ε Bool) (i : Nat) (items : List α) : List (Except ε Bool) :=
  (items.zipIdx i).map fun p => test p.1 p.2

def failure? : Except ε Bool → Option ε
  | .error e => some e
  | .ok _ => none

def fails (r : Except ε Bool) : Bool :=
  (failure? r).isSome

/-- Whether a search ends at a result, if it goes on at one answer only. -/
def stops (goesOn : Bool) : Except ε Bool → Bool
  | .error _ => true
  | .ok b => b != goesOn

def passes : Except ε Bool → Bool
  | .error _ => false
  | .ok b => b

/-- The calls on the items up to the first one whose result is of some kind, or on all items. -/
def callsUpTo (kind : Except ε Bool → Bool) (test : α → Nat → Except ε Bool) (i : Nat)
    (items : List α) : List (α × Nat) :=
  (items.zipIdx i).take ((results test i items).findIdx kind + 1)

variable {test : α → Nat → Except ε Bool} {i : Nat} {a : α} {rest : List α}

theorem results_cons : results test i (a :: rest) = test a i :: results test (i + 1) rest := by
  rw [results, List.zipIdx_cons, List.map_cons]
  rfl

theorem callsUpTo_cons_of_pos {kind : Except ε Bool → Bool} (h : kind (test a i) = true) :
    callsUpTo kind test i (a :: rest) = [(a, i)] := by
  rw [callsUpTo, results_cons, List.findIdx_cons, h, List.zipIdx_cons]
  rfl

theorem callsUpTo_cons_of_neg {kind : Except ε Bool → Bool} (h : kind (test a i) = false) :
    callsUpTo kind test i (a :: rest) = (a, i) :: callsUpTo kind test (i + 1) rest := by
  rw [callsUpTo, results_cons, List.findIdx_cons, h, List.zipIdx_cons]
  rfl

theorem calling_of_ok {b : Bool} (h : test a i = .ok b) {β : Type}
    (f : Bool → Recorded (α × Nat) ε β) :
    calling test a i >>= f = ⟨(a, i) :: (f b).log, (f b).result⟩ :=
  Recorded.bind_of_ok (x := calling test a i) h f

theorem calling_of_error {e : ε} (h : test a i = .error e) {β : Type}
    (f : Bool → Recorded (α × Nat) ε β) : calling test a i >>= f = ⟨[(a, i)], .error e⟩ :=
  Recorded.bind_of_error (x := calling test a i) h f

/-! ## Searches -/

/-- Look for an item with another answer than one, the first item having index `i`. -/
def searchFrom {m : Type → Type} [Monad m] (goesOn : Bool) (test : α → Nat → m Bool) (i : Nat) :
    List α → m Bool
  | [] => pure goesOn
  | a :: rest => do
    let b ← test a i
    if b = goesOn then searchFrom goesOn test (i + 1) rest else pure b

section
variable {m : Type → Type} [Monad m] (test : α → Nat → m Bool)

theorem allMatchFrom_eq_searchFrom (i : Nat) (items : List α) :
    allMatchFrom test i items = searchFrom true test i items := by
  induction items generalizing i with
  | nil => rfl
  | cons a rest ih =>
    rw [allMatchFrom, searchFrom, ih]
    congr 1
    funext b
    cases b <;> rfl

theorem anyMatchFrom_eq_searchFrom (i : Nat) (items : List α) :
    anyMatchFrom test i items = searchFrom false test i items := by
  induction items generalizing i with
  | nil => rfl
  | cons a rest ih =>
    rw [anyMatchFrom, searchFrom, ih]
    congr 1
    funext b
    cases b <;> rfl

end

/-- A search calls its test up to the first result that stops it, and ends with this result. -/
theorem searchFrom_calling (goesOn : Bool) (test : α → Nat → Except ε Bool) (i : Nat)
    (items : List α) :
    searchFrom goesOn (calling test) i items =
      ⟨callsUpTo (stops goesOn) test i items,
        ((results test i items).find? (stops goesOn)).getD (.ok goesOn)⟩ := by
  induction items generalizing i with
  | nil => rfl
  | cons a rest ih =>
    rw [searchFrom, results_cons, List.find?_cons]
    cases hresult : test a i with
    | error e =>
      have hstops : stops goesOn (test a i) = true := by rw [hresult, stops]
      rw [callsUpTo_cons_of_pos hstops, calling_of_error hresult]
      rfl
    | ok b =>
      rw [calling_of_ok hresult]
      by_cases hb : b = goesOn
      · have hstops : stops goesOn (test a i) = false := by rw [hresult, stops, hb, bne_self_eq_false]
        rw [if_pos hb, ih, callsUpTo_cons_of_neg hstops, ← hresult, hstops]
      · have hstops : stops goesOn (test a i) = true := by rw [hresult, stops, bne_iff_ne]; exact hb
        rw [if_neg hb, callsUpTo_cons_of_pos hstops, ← hresult, hstops, hresult]
        rfl

/-! ## Filtering and counting -/

def passing (test : α → Nat → Except ε Bool) (i : Nat) (items : List α) : List α :=
  ((items.zipIdx i).filter fun p => passes (test p.1 p.2)).map Prod.fst

theorem passing_cons : passing test i (a :: rest) =
    if passes (test a i) then a :: passing test (i + 1) rest else passing test (i + 1) rest := by
  rw [passing, List.zipIdx_cons, List.filter_cons]
  split <;> rfl

theorem length_passing (test : α → Nat → Except ε Bool) (i : Nat) (items : List α) :
    (passing test i items).length = (results test i items).countP passes := by
  rw [passing, List.length_map, results, List.countP_map, List.countP_eq_length_filter]
  rfl

/-- A filter calls its test up to the first failure, and keeps the items that pass if there is none. -/
theorem filterFrom_calling (test : α → Nat → Except ε Bool) (i : Nat) (items : List α) :
    filterFrom (calling test) i items =
      ⟨callsUpTo fails test i items,
        ((results test i items).findSome? failure?).elim (.ok (passing test i items)) .error⟩ := by
  induction items generalizing i with
  | nil => rfl
  | cons a rest ih =>
    rw [filterFrom, results_cons, passing_cons, List.findSome?_cons]
    cases hresult : test a i with
    | error e =>
      have hfails : fails (test a i) = true := by rw [hresult]; rfl
      rw [callsUpTo_cons_of_pos hfails, calling_of_error hresult]
      rfl
    | ok b =>
      have hgoes : fails (test a i) = false := by rw [hresult]; rfl
      rw [calling_of_ok hresult, callsUpTo_cons_of_neg hgoes]
      cases b with
      | false => rw [if_neg Bool.false_ne_true, ih]; rfl
      | true =>
        rw [if_pos rfl, ih, bind_pure_comp, Recorded.map_eq]
        cases (results test (i + 1) rest).findSome? failure? <;> rfl

theorem singleMatch_calling (test : α → Nat → Except ε Bool) (items : List α) :
    singleMatch (calling test) items =
      ⟨callsUpTo fails test 0 items,
        ((results test 0 items).findSome? failure?).elim
          (.ok ((results test 0 items).countP passes == 1)) .error⟩ := by
  rw [singleMatch_eq_filter, filter, filterFrom_calling, bind_pure_comp, Recorded.map_eq,
    ← length_passing]
  cases (results test 0 items).findSome? failure? <;> rfl

/-- Where nothing fails, a search asks whether all items pass, or whether some item does. -/
theorem find?_stops_of_ok {rs : List (Except ε Bool)} (h : rs.findSome? failure? = none)
    (goesOn : Bool) :
    (rs.find? (stops goesOn)).getD (.ok goesOn) =
      .ok (if goesOn then rs.all passes else rs.any passes) := by
  induction rs with
  | nil => cases goesOn <;> rfl
  | cons r rest ih =>
    rw [List.findSome?_cons] at h
    cases r with
    | error e => cases h
    | ok b =>
      rw [List.find?_cons, List.all_cons, List.any_cons]
      cases b <;> cases goesOn
      · exact ih h
      · rfl
      · rfl
      · exact ih h

end

end Sequence

/-! ## Chains -/

namespace Chain

variable {m : Type → Type} [Monad m] [LawfulMonad m] {α σ : Type}

theorem walkList_all (test : α → Nat → m Bool) (i : Nat) (items : List α) :
    walkList (fun _ a i => do if ← test a i then pure (.yield true) else pure (.done false)) i true
      items = Sequence.allMatchFrom test i items := by
  induction items generalizing i with
  | nil => rfl
  | cons a rest ih =>
    rw [walkList, Sequence.allMatchFrom, bind_assoc]
    congr 1
    funext b
    cases b with
    | false => exact pure_bind _ _
    | true => exact (pure_bind _ _).trans (ih (i + 1))

theorem walkList_any (test : α → Nat → m Bool) (i : Nat) (items : List α) :
    walkList (fun _ a i => do if ← test a i then pure (.done true) else pure (.yield false)) i false
      items = Sequence.anyMatchFrom test i items := by
  induction items generalizing i with
  | nil => rfl
  | cons a rest ih =>
    rw [walkList, Sequence.anyMatchFrom, bind_assoc]
    congr 1
    funext b
    cases b with
    | false => exact (pure_bind _ _).trans (ih (i + 1))
    | true => exact pure_bind _ _

theorem walkList_reduce (combine : σ → α → Nat → m σ) (i : Nat) (s : σ) (items : List α) :
    walkList (fun s a i => do
      let s ← combine s a i
      pure (.yield s)) i s items = Sequence.reduceFrom combine i s items := by
  induction items generalizing i s with
  | nil => rfl
  | cons a rest ih =>
    rw [walkList, Sequence.reduceFrom, bind_assoc]
    congr 1
    funext s
    exact (pure_bind _ _).trans (ih (i + 1) s)

/-- Items that may fail themselves, each of them computed when it is taken. -/
def ofRuns {m : Type → Type} {α : Type} (xs : List (m α)) : Chain m α :=
  (items xs).map fun x _ => x

section
variable (xs : List (m α))

theorem all_ofRuns (test : α → Nat → m Bool) :
    (ofRuns xs).all test = Sequence.allMatch (fun x i => x >>= fun a => test a i) xs := by
  rw [Sequence.allMatch, ← walkList_all, all, ofRuns, walk_map, walk_items]
  simp only [bind_assoc]

theorem any_ofRuns (test : α → Nat → m Bool) :
    (ofRuns xs).any test = Sequence.anyMatch (fun x i => x >>= fun a => test a i) xs := by
  rw [Sequence.anyMatch, ← walkList_any, any, ofRuns, walk_map, walk_items]
  simp only [bind_assoc]

theorem single_ofRuns (test : α → Nat → m Bool) :
    (ofRuns xs).single test = Sequence.singleMatch (fun x i => x >>= fun a => test a i) xs := by
  rw [Sequence.singleMatch, Sequence.reduce, ← walkList_reduce, single, reduce, ofRuns, walk_map,
    walk_items]
  simp only [bind_assoc]

end

end Chain

/-! ## The deciding item -/

namespace Sequence

variable {ε α : Type}

/-- A test that is called on one item after the other ends with the first result that decides: for a
search the first one that is a failure or the answer looked for, for a count and a filter the first
failure. It has been called once with each index up to there, or on all items if nothing decides. So
whenever counting ends well, searching tells the same. A chain of items that may fail themselves is
tested like a list, where an item that fails is a failure of the test. -/
theorem decided_by_first (test : α → Nat → Except ε Bool) (items : List α) :
    allMatch (calling test) items =
      ⟨callsUpTo (stops true) test 0 items,
        ((results test 0 items).find? (stops true)).getD (.ok true)⟩ ∧
    anyMatch (calling test) items =
      ⟨callsUpTo (stops false) test 0 items,
        ((results test 0 items).find? (stops false)).getD (.ok false)⟩ ∧
    singleMatch (calling test) items =
      ⟨callsUpTo fails test 0 items,
        ((results test 0 items).findSome? failure?).elim
          (.ok ((results test 0 items).countP passes == 1)) .error⟩ ∧
    filter (calling test) items =
      ⟨callsUpTo fails test 0 items,
        ((results test 0 items).findSome? failure?).elim (.ok (passing test 0 items)) .error⟩ ∧
    (∀ b, (singleMatch (calling test) items).result = .ok b →
      (anyMatch (calling test) items).result = .ok ((results test 0 items).any passes) ∧
      (allMatch (calling test) items).result = .ok ((results test 0 items).all passes)) ∧
    ∀ (ω β : Type) (xs : List (Recorded ω ε β)) (t : β → Nat → Recorded ω ε Bool),
      (Chain.ofRuns xs).all t = allMatch (fun x i => x >>= fun b => t b i) xs ∧
      (Chain.ofRuns xs).any t = anyMatch (fun x i => x >>= fun b => t b i) xs ∧
      (Chain.ofRuns xs).single t = singleMatch (fun x i => x >>= fun b => t b i) xs := by
  have hall : allMatch (calling test) items = _ :=
    (allMatchFrom_eq_searchFrom (calling test) 0 items).trans (searchFrom_calling true test 0 items)
  have hany : anyMatch (calling test) items = _ :=
    (anyMatchFrom_eq_searchFrom (calling test) 0 items).trans (searchFrom_calling false test 0 items)
  have hsingle := singleMatch_calling test items
  refine ⟨hall, hany, hsingle, filterFrom_calling test 0 items, fun b hb => ?_, fun ω β xs t =>
    ⟨Chain.all_ofRuns xs t, Chain.any_ofRuns xs t, Chain.single_ofRuns xs t⟩⟩
  rw [hsingle] at hb
  cases hfirst : (results test 0 items).findSome? failure? with
  | some e =>
    rw [hfirst] at hb
    cases hb
  | none =>
    rw [hall, hany]
    exact ⟨find?_stops_of_ok hfirst false, find?_stops_of_ok hfirst true⟩

/-- Of three items two pass: counting goes through all of them, and tells what the searches find, which
stop at the second item and at the first one. -/
theorem decided_by_first_two :
    (singleMatch (calling fun a i => (.ok (a == i) : Except String Bool)) [0, 2, 2]).result =
        .ok false ∧
      (anyMatch (calling fun a i => (.ok (a == i) : Except String Bool)) [0, 2, 2]).result =
        .ok true ∧
      (allMatch (calling fun a i => (.ok (a == i) : Except String Bool)) [0, 2, 2]).result =
        .ok false ∧
      (allMatch (calling fun a i => (.ok (a == i) : Except String Bool)) [0, 2, 2]).log =
        [(0, 0), (2, 1)] ∧
      (anyMatch (calling fun a i => (.ok (a == i) : Except String Bool)) [0, 2, 2]).log =
        [(0, 0)] := by
  have hsingle : (singleMatch (calling fun a i => (.ok (a == i) : Except String Bool))
      [0, 2, 2]).result = .ok false := rfl
  obtain ⟨hall, hany, -, -, hagree, -⟩ :=
    decided_by_first (fun a i => (.ok (a == i) : Except String Bool)) [0, 2, 2]
  obtain ⟨hsome, hevery⟩ := hagree false hsingle
  exact ⟨hsingle, hsome, hevery, congrArg Recorded.log hall, congrArg Recorded.log hany⟩

/-- The third item fails, so the last one is not tested. -/
example : singleMatch (calling fun a _ => if a = 0 then .error "zero" else .ok (a == 2))
    [2, 1, 0, 2] = ⟨[(2, 0), (1, 1), (0, 2)], .error "zero"⟩ := rfl

end Sequence

end Sift
