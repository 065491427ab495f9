import LibDoip.Library.History
import Mathlib.Logic.Function.Basic
import Mathlib.Data.List.Induction

/-! Who holds what. A handle that nobody holds can be granted to a party, which may use it until it gives it up.
Some handles are granted to nobody: a party falls back to them once it holds nothing any more. Where every party by
itself uses nothing else, no party ever uses a handle of another, however their steps mix and however often a handle
is granted anew. -/
namespace LibDoip.Library
variable {ι η ω σ β : Type}

structure Handling (η ω σ : Type) where
  uses : ω → Option η
  releases : ω → Bool
  holds : σ → η → Prop
  fallback : η → Prop

namespace Handling
variable (c : Handling η ω σ)

def Frees (e : ω) (h : η) : Prop := c.uses e = some h ∧ c.releases e = true

def Spares (l : List ω) (h : η) : Prop := ∀ e ∈ l, ¬ c.Frees e h

inductive Permits (s : σ) (past : List ω) (e : ω) (h : η) : Prop where
  | own (held : c.holds s h) (spared : c.Spares past h)
  | common (fallback : c.fallback h) (keeps : c.releases e = false) (spent : ∀ g, c.holds s g → ¬ c.Spares past g)

structure Confined (s : σ) (l : List ω) (t : σ) : Prop where
  used : Always (fun past e => ∀ h, c.uses e = some h → c.Permits s past e h) [] l
  kept : ∀ h, c.holds t h ↔ c.holds s h ∧ c.Spares l h

variable {c}

theorem sparesNil (h : η) : c.Spares [] h := nofun

theorem sparesAppend (l m : List ω) (h : η) : c.Spares (l ++ m) h ↔ c.Spares l h ∧ c.Spares m h :=
  List.forall_mem_append

end Handling

theorem Always.shift {p q : List ω → ω → Prop} {before : List ω} (move : ∀ past e, p past e → q (before ++ past) e)
    {past l : List ω} (always : Always p past l) : Always q (before ++ past) l := by
  induction l generalizing past with
  | nil => trivial
  | cons e rest ih =>
    refine ⟨move past e always.1,?_⟩
    rw [List.append_assoc]
    exact ih always.2

namespace Handling
variable {c : Handling η ω σ}

theorem Permits.after {s t : σ} {l past : List ω} {e : ω} {h : η} (permits : c.Permits t past e h)
    (kept : ∀ h, c.holds t h ↔ c.holds s h ∧ c.Spares l h) : c.Permits s (l ++ past) e h := by
  cases permits with
  | own held spared =>
    obtain ⟨before,through⟩ := (kept h).mp held
    exact .own before ((sparesAppend l past h).mpr ⟨through,spared⟩)
  | common fallback keeps spent =>
    refine .common fallback keeps (fun g held spared => ?_)
    obtain ⟨through,later⟩ := (sparesAppend l past g).mp spared
    exact spent g ((kept g).mpr ⟨held,through⟩) later

theorem Confined.trans {s t u : σ} {l m : List ω} (first : c.Confined s l t) (second : c.Confined t m u) :
    c.Confined s (l ++ m) u where
  used := by
    refine (Always.append [] l m).mpr ⟨first.used,?_⟩
    have later := @Always.shift _ _ (fun past e => ∀ h, c.uses e = some h → c.Permits s past e h) l
      (fun past e permits h used => (permits h used).after first.kept) _ _ second.used
    rw [List.append_nil] at later
    exact later
  kept h := by rw [second.kept,first.kept,sparesAppend,and_assoc]

end Handling

inductive Entry (ι η ω : Type) where
  | grants (i : ι) (h : η)
  | does (i : ι) (e : ω)
  deriving DecidableEq, Repr

def Entry.doneBy [DecidableEq ι] (i : ι) : Entry ι η ω → Option ω
  | .does j e => if j = i then some e else none
  | .grants _ _ => none

namespace Custody

def does (i : ι) (l : List ω) : List (Entry ι η ω) := l.map (.does i)

def grants (i : ι) (hs : List η) : List (Entry ι η ω) := hs.map (.grants i)

section Parties
variable [DecidableEq ι]

def doneBy (i : ι) (log : List (Entry ι η ω)) : List ω := log.filterMap (Entry.doneBy i)

theorem doneByNothing {i : ι} {past later : List (Entry ι η ω)} (nothing : ∀ e ∈ later, e.doneBy i = none) :
    doneBy i (past ++ later) = doneBy i past := by
  have none : later.filterMap (Entry.doneBy i) = [] := List.filterMap_eq_nil_iff.mpr nothing
  rw [doneBy,List.filterMap_append,none,List.append_nil,doneBy]

theorem doneByGrants (i j : ι) (past : List (Entry ι η ω)) (hs : List η) :
    doneBy i (past ++ grants j hs) = doneBy i past := by
  refine doneByNothing (fun e member => ?_)
  obtain ⟨h,_,rfl⟩ := List.mem_map.mp member
  rfl

theorem doneByOther {i j : ι} (other : j ≠ i) (past : List (Entry ι η ω)) (l : List ω) :
    doneBy i (past ++ does j l) = doneBy i past := by
  refine doneByNothing (fun e member => ?_)
  obtain ⟨e,_,rfl⟩ := List.mem_map.mp member
  exact if_neg other

theorem doneByOwn (i : ι) (past : List (Entry ι η ω)) (l : List ω) : doneBy i (past ++ does i l) = doneBy i past ++ l := by
  have all : (does i l : List (Entry ι η ω)).filterMap (Entry.doneBy i) = l := by
    induction l with
    | nil => rfl
    | cons e rest ih =>
      have own : Entry.doneBy i (.does i e : Entry ι η ω) = some e := if_pos rfl
      rw [does,List.map_cons,List.filterMap_cons_some own,← does,ih]
  rw [doneBy,List.filterMap_append,all,doneBy]

end Parties

variable [DecidableEq η] (c : Handling η ω σ)

def after (held : η → Option ι) : Entry ι η ω → η → Option ι
  | .grants i h => Function.update held h (some i)
  | .does _ e => match c.uses e with
      | some h => if c.releases e then Function.update held h none else held
      | none => held

def holder (log : List (Entry ι η ω)) : η → Option ι := log.foldl (after c) (fun _ => none)

/- Only a free handle is granted, and only its holder uses it; a fallback is granted to nobody, given up by nobody and
used only by those that hold nothing. -/
def Proper (past : List (Entry ι η ω)) : Entry ι η ω → Prop
  | .grants _ h => holder c past h = none ∧ ¬ c.fallback h
  | .does i e => ∀ h, c.uses e = some h → holder c past h = some i ∨
      c.fallback h ∧ c.releases e = false ∧ ∀ g, holder c past g ≠ some i

variable {c}

theorem holderAppend (past : List (Entry ι η ω)) (e : Entry ι η ω) : holder c (past ++ [e]) = after c (holder c past) e := by
  rw [holder,List.foldl_append]
  rfl

theorem holderGrant (past : List (Entry ι η ω)) (i : ι) (g h : η) :
    holder c (past ++ [.grants i g]) h = if h = g then some i else holder c past h := by
  rw [holderAppend,after,Function.update_apply]

theorem holderDoes (past : List (Entry ι η ω)) (i : ι) (e : ω) (h : η) (spared : ¬ c.Frees e h) :
    holder c (past ++ [.does i e]) h = holder c past h := by
  rw [holderAppend,after]
  cases used : c.uses e with
  | none => rfl
  | some g =>
    cases releases : c.releases e with
    | false => rfl
    | true =>
      have other : h ≠ g := by
        rintro rfl
        exact spared ⟨used,releases⟩
      exact Function.update_of_ne other (none : Option ι) (holder c past)

theorem holderFrees (past : List (Entry ι η ω)) (i : ι) (e : ω) (h : η) (freed : c.Frees e h) :
    holder c (past ++ [.does i e]) h = none := by
  rw [holderAppend,after,freed.1]
  simp only [freed.2,if_true]
  exact Function.update_self h (none : Option ι) (holder c past)

theorem holderSpared (past : List (Entry ι η ω)) (i : ι) {l : List ω} {h : η} (spared : c.Spares l h) :
    holder c (past ++ does i l) h = holder c past h := by
  induction l generalizing past with
  | nil => rw [does,List.map_nil,List.append_nil]
  | cons e rest ih =>
    obtain ⟨first,later⟩ := List.forall_mem_cons.mp spared
    have next := ih (past ++ [.does i e]) later
    rw [List.append_assoc,List.singleton_append] at next
    exact next.trans (holderDoes past i e h first)

theorem holderFreed (past : List (Entry ι η ω)) (i : ι) {l : List ω} {h : η} (freed : ¬ c.Spares l h) :
    holder c (past ++ does i l) h = none := by
  induction l generalizing past with
  | nil => exact absurd (Handling.sparesNil h) freed
  | cons e rest ih =>
    have split : past ++ does i (e::rest) = past ++ [.does i e] ++ does i rest := by
      rw [List.append_assoc,List.singleton_append]
      rfl
    rw [split]
    by_cases later : c.Spares rest h
    · have first : c.Frees e h := by
        refine Classical.byContradiction (fun spared => freed ?_)
        exact List.forall_mem_cons.mpr ⟨spared,later⟩
      rw [holderSpared _ i later]
      exact holderFrees past i e h first
    · exact ih _ later

theorem holderGrants (past : List (Entry ι η ω)) (i : ι) (hs : List η) (h : η) :
    holder c (past ++ grants i hs) h = if h ∈ hs then some i else holder c past h := by
  induction hs generalizing past with
  | nil => rw [grants,List.map_nil,List.append_nil,if_neg List.not_mem_nil]
  | cons g rest ih =>
    have next := ih (past ++ [.grants i g])
    rw [List.append_assoc,List.singleton_append,holderGrant] at next
    refine next.trans ?_
    by_cases later : h ∈ rest
    · rw [if_pos later,if_pos (List.mem_cons_of_mem g later)]
    · simp only [List.mem_cons,or_false,later,if_false]

theorem grantsProper {past : List (Entry ι η ω)} (i : ι) {hs : List η} (different : hs.Nodup)
    (free : ∀ h ∈ hs, holder c past h = none ∧ ¬ c.fallback h) : Always (Proper c) past (grants i hs) := by
  induction hs generalizing past with
  | nil => trivial
  | cons g rest ih =>
    obtain ⟨first,later⟩ := List.nodup_cons.mp different
    refine ⟨free g List.mem_cons_self,ih later (fun h member => ?_)⟩
    have other : h ≠ g := by
      rintro rfl
      exact first member
    rw [holderGrant,if_neg other]
    exact free h (List.mem_cons_of_mem g member)

theorem partyProper {s t : σ} {l : List ω} (confined : c.Confined s l t) {past : List (Entry ι η ω)} {i : ι}
    (holds : ∀ h, c.holds s h ↔ holder c past h = some i) : Always (Proper c) past (does i l) := by
  have used := confined.used
  -- The log of the party so far, as a part of the whole log.
  suffices lifted : ∀ done rest, Always (fun past e => ∀ h, c.uses e = some h → c.Permits s past e h) done rest →
      Always (Proper c) (past ++ does i done) (does i rest) by
    have start := lifted [] l used
    rw [does,List.map_nil,List.append_nil] at start
    exact start
  intro done rest always
  induction rest generalizing done with
  | nil => trivial
  | cons e rest ih =>
    refine ⟨fun h uses => ?_,?_⟩
    · cases always.1 h uses with
      | own held spared =>
        rw [holderSpared past i spared]
        exact Or.inl ((holds h).mp held)
      | common fallback keeps spent =>
        refine Or.inr ⟨fallback,keeps,fun g owns => ?_⟩
        by_cases spared : c.Spares done g
        · rw [holderSpared past i spared] at owns
          exact spent g ((holds g).mpr owns) spared
        · rw [holderFreed past i spared] at owns
          cases owns
    · have next := ih (done ++ [e]) always.2
      rw [does,List.map_append,← List.append_assoc] at next
      exact next

structure Settles (c : Handling η ω σ) (past : List (Entry ι η ω)) (i : ι) (t : σ) (l : List ω) : Prop where
  own : ∀ h, c.holds t h ↔ holder c (past ++ does i l) h = some i
  others : ∀ h j, j ≠ i → (holder c (past ++ does i l) h = some j ↔ holder c past h = some j)

theorem partySettles {s t : σ} {l : List ω} (confined : c.Confined s l t) {past : List (Entry ι η ω)} {i : ι}
    (holds : ∀ h, c.holds s h ↔ holder c past h = some i) : Settles c past i t l := by
  have releases : ∀ h, ¬ c.Spares l h → c.holds s h := by
    intro h freed
    obtain ⟨e,member,uses,releases⟩ : ∃ e ∈ l, c.Frees e h := by
      simpa only [Handling.Spares,not_forall,not_not,exists_prop] using freed
    obtain ⟨before,rest,split⟩ := List.append_of_mem member
    cases confined.used.split split h uses with
    | own held spared => exact held
    | common fallback keeps spent =>
      rw [keeps] at releases
      cases releases
  constructor
  · intro h
    by_cases spared : c.Spares l h
    · rw [confined.kept,holderSpared past i spared,holds,and_iff_left spared]
    · rw [confined.kept,holderFreed past i spared]
      exact iff_of_false (fun kept => spared kept.2) nofun
  · intro h j other
    by_cases spared : c.Spares l h
    · rw [holderSpared past i spared]
    · rw [holderFreed past i spared,(holds h).mp (releases h spared)]
      exact iff_of_false nofun (fun same => other (Option.some.inj same).symm)

theorem holderGranted {log : List (Entry ι η ω)} {i : ι} {h : η} (held : holder c log h = some i) :
    .grants i h ∈ log := by
  induction log using List.reverseRecOn with
  | nil => cases held
  | append_singleton log e ih =>
    cases e with
    | grants j g =>
      rw [holderGrant] at held
      split at held
      · rename_i same
        cases held
        rw [same]
        exact List.mem_concat_self
      · exact List.mem_append_left _ (ih held)
    | does j e =>
      by_cases freed : c.Frees e h
      · rw [holderFrees log j e h freed] at held
        cases held
      · rw [holderDoes log j e h freed] at held
        exact List.mem_append_left _ (ih held)

theorem fallbackFree {log : List (Entry ι η ω)} (proper : Always (Proper c) [] log) {h : η} (common : c.fallback h) :
    holder c log h = none := by
  refine Option.eq_none_iff_forall_ne_some.mpr (fun i held => ?_)
  obtain ⟨before,rest,split⟩ := List.append_of_mem (holderGranted held)
  exact (proper.split split).2 common

section Deliveries
variable [DecidableEq ι] (c) (content : ω → List β) (i : ι)

/- Whoever makes an entry, what it brings goes to the party that holds the handle at that moment. -/
def delivery (past : List (Entry ι η ω)) : Entry ι η ω → List β
  | .grants _ _ => []
  | .does _ e => match c.uses e with
      | some h => if holder c past h = some i then content e else []
      | none => []

def delivered (past : List (Entry ι η ω)) : List (Entry ι η ω) → List β
  | [] => []
  | e::rest => delivery c content i past e ++ delivered (past ++ [e]) rest

variable {c content i}

theorem deliveredAppend (past l m : List (Entry ι η ω)) : delivered c content i past (l ++ m) =
    delivered c content i past l ++ delivered c content i (past ++ l) m := by
  induction l generalizing past with
  | nil => rw [List.nil_append,List.append_nil,delivered,List.nil_append]
  | cons e rest ih =>
    rw [List.cons_append,delivered,ih,delivered,List.append_assoc,List.append_assoc,List.singleton_append]

theorem deliveryOther {log : List (Entry ι η ω)} (proper : Always (Proper c) [] log) {j : ι} (other : j ≠ i) {e : ω}
    (now : Proper c log (.does j e)) : delivery c content i log (.does j e) = [] := by
  rw [delivery]
  cases uses : c.uses e with
  | none => rfl
  | some h =>
    refine if_neg (fun held => ?_)
    rcases now h uses with own | ⟨fallback,_⟩
    · exact other (Option.some.inj (own.symm.trans held))
    · rw [fallbackFree proper fallback] at held
      cases held

theorem deliveryMine {log : List (Entry ι η ω)} {e : ω} (now : Proper c log (.does i e)) {own : ω → List β}
    (mine : ∀ h, c.uses e = some h → .grants i h ∈ log → own e = content e)
    (common : ∀ h, c.uses e = some h → c.fallback h → own e = []) (unused : c.uses e = none → own e = []) :
    delivery c content i log (.does i e) = own e := by
  rw [delivery]
  cases uses : c.uses e with
  | none => exact (unused uses).symm
  | some h =>
    dsimp only
    split
    · rename_i held
      exact (mine h uses (holderGranted held)).symm
    · rename_i lost
      rcases now h uses with held | ⟨fallback,_⟩
      · exact absurd held lost
      · exact (common h uses fallback).symm

theorem deliveredOwn {log : List (Entry ι η ω)} (proper : Always (Proper c) [] log) {own : ω → List β}
    (mine : ∀ e h, c.uses e = some h → .grants i h ∈ log → own e = content e)
    (common : ∀ e h, c.uses e = some h → c.fallback h → own e = [])
    (unused : ∀ e, c.uses e = none → own e = []) :
    delivered c content i [] log = (doneBy i log).flatMap own := by
  induction log using List.reverseRecOn with
  | nil => rfl
  | append_singleton log e ih =>
    obtain ⟨before,now,_⟩ := (Always.append [] log [e]).mp proper
    have earlier := ih before (fun e h uses granted => mine e h uses (List.mem_append_left _ granted))
    rw [deliveredAppend,earlier,List.nil_append,delivered,delivered,List.append_nil]
    cases e with
    | grants j g =>
      have quiet := doneByGrants i j log [g]
      rw [grants,List.map_singleton] at quiet
      rw [quiet,delivery,List.append_nil]
    | does j e =>
      by_cases same : j = i
      · subst same
        have more := doneByOwn j log [e]
        rw [does,List.map_singleton] at more
        rw [more,List.flatMap_append,List.flatMap_singleton]
        refine congrArg _ (deliveryMine now (fun h uses granted => ?_) (common e) (unused e))
        exact mine e h uses (List.mem_append_left _ granted)
      · have quiet := doneByOther same log [e]
        rw [does,List.map_singleton] at quiet
        rw [quiet,deliveryOther before same now,List.append_nil]

end Deliveries

end Custody
end LibDoip.Library
