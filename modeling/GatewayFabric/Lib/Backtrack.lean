/-
A backtracking matcher of regular expressions in the manner of PCRE: the
ways an expression can match from a point of the subject are tried in a
fixed order of preference, and the first that reaches the end of the
expression is the match, with its captures. `Re.run` lists these ways in
that order, so that the match from a point is the head of the list, and
`search` takes it from the first start of the subject that has one.

A greedy loop tries one more iteration before it stops. PCRE ends a loop
at an iteration that consumed nothing; here such an iteration is not
taken, which gives the same ends of a match and differs only in the
captures an empty iteration would set.
-/
import Mathlib.Data.List.Basic

namespace GatewayFabric.Backtrack

/-- Regular expressions over the symbols `α`. -/
inductive Re (α : Type) where
  | empty
  | lit (a : α)
  /-- the listed symbols, or every other one -/
  | cls (negated : Bool) (as : List α)
  /-- the start of the subject -/
  | bol
  /-- the end of the subject, or just before a last `nl` -/
  | eol (nl : α)
  | seq (r s : Re α)
  /-- the left alternative first -/
  | alt (r s : Re α)
  /-- greedy repetition -/
  | star (r : Re α)
  | group (n : Nat) (r : Re α)
  deriving Repr, DecidableEq

/-- A point reached in the subject: its position, what is left of the
subject, and the captures set so far, the latest first. -/
structure Thread (α : Type) where
  pos : Nat
  rest : List α
  caps : List (Nat × List α) := []
  deriving Repr, DecidableEq

variable {α : Type}

namespace Thread

/-- The thread after the next symbol, if `p` admits it. -/
def next (p : α → Bool) (t : Thread α) : List (Thread α) :=
  match t.rest with
  | b :: r => if p b then [{ t with pos := t.pos + 1, rest := r }] else []
  | [] => []

/-- What was consumed between `t` and a later thread `t'`. -/
def consumed (t t' : Thread α) : List α := t.rest.take (t.rest.length - t'.rest.length)

/-- What the last iteration of group `n` captured, if the group took part. -/
def capture (t : Thread α) (n : Nat) : Option (List α) := t.caps.lookup n

theorem next_cons (p : α → Bool) (pos : Nat) (b : α) (r : List α) (caps : List (Nat × List α)) :
    next p ⟨pos, b :: r, caps⟩ = if p b then [⟨pos + 1, r, caps⟩] else [] := rfl

end Thread

namespace Re

/-- The items of a sequence, in order. -/
def cat (rs : List (Re α)) : Re α := rs.foldr seq empty

/-- The alternatives of a choice, the first preferred. -/
def alts : List (Re α) → Re α
  | [] => empty
  | [r] => r
  | r :: rs => alt r (alts rs)

/-- `r+`: one iteration, then as many as can be. -/
def plus (r : Re α) : Re α := seq r (star r)

/-- `r?`, greedy: the iteration first. -/
def opt (r : Re α) : Re α := alt r empty

/-- At most `n` more iterations of a loop whose body leads from `t` to
`body t`, one more first; an iteration that consumes nothing is not taken. -/
def starIter (body : Thread α → List (Thread α)) : Nat → Thread α → List (Thread α)
  | 0, t => [t]
  | n + 1, t => ((body t).filter fun t' => t'.rest.length < t.rest.length).flatMap (starIter body n) ++ [t]

/-- A greedy loop over one class first takes every symbol of the class that
comes next. -/
theorem head?_starIter_next {p : α → Bool} {v r : List α} (hv : ∀ b ∈ v, p b = true)
    (hr : ∀ b, r.head? = some b → p b = false) (caps : List (Nat × List α)) :
    ∀ (n pos : Nat), v.length ≤ n →
      (starIter (Thread.next p) n ⟨pos, v ++ r, caps⟩).head? = some ⟨pos + v.length, r, caps⟩ := by
  induction v with
  | nil =>
    intro n pos _
    have hstop : Thread.next p ⟨pos, r, caps⟩ = [] := by
      cases r with
      | nil => rfl
      | cons b r => simp [Thread.next_cons, hr b rfl]
    cases n with
    | zero => rfl
    | succ n => simp [starIter, hstop]
  | cons b v ih =>
    intro n pos hn
    obtain ⟨n, rfl⟩ : ∃ m, n = m + 1 := ⟨n - 1, by simp at hn; omega⟩
    have hb : p b = true := hv b List.mem_cons_self
    have hnext : Thread.next p ⟨pos, b :: (v ++ r), caps⟩ = [⟨pos + 1, v ++ r, caps⟩] := by
      simp [Thread.next_cons, hb]
    have hrest := ih (fun c hc => hv c (List.mem_cons_of_mem b hc)) n (pos + 1) (by simp at hn; omega)
    simp only [starIter, List.cons_append, hnext]
    simp [List.head?_append, hrest, Nat.add_assoc, Nat.add_comm 1]

section Run

variable [DecidableEq α]

/-- The symbols of a class. -/
def inClass (negated : Bool) (as : List α) (b : α) : Bool := decide (b ∈ as) != negated

/-- Every way `r` matches from `t`, in order of preference: the thread each
ends in. -/
def run : Re α → Thread α → List (Thread α)
  | empty, t => [t]
  | lit a, t => t.next fun b => decide (b = a)
  | cls negated as, t => t.next (inClass negated as)
  | bol, t => if t.pos = 0 then [t] else []
  | eol nl, t => if t.rest = [] ∨ t.rest = [nl] then [t] else []
  | seq r s, t => (r.run t).flatMap s.run
  | alt r s, t => r.run t ++ s.run t
  -- a loop has at most as many consuming iterations as there are symbols left
  | star r, t => starIter r.run t.rest.length t
  | group n r, t => (r.run t).map fun t' => { t' with caps := (n, t.consumed t') :: t'.caps }

/-- The match: the first way of the first start of the subject that has one. -/
def search (r : Re α) (subject : List α) : Option (Thread α) :=
  (List.range (subject.length + 1)).findSome? fun i => (r.run { pos := i, rest := subject.drop i }).head?

/-! ## One equation for each constructor -/

@[simp] theorem run_empty (t : Thread α) : empty.run t = [t] := rfl

@[simp] theorem run_lit (a : α) (t : Thread α) : (lit a).run t = t.next fun b => decide (b = a) := rfl

@[simp] theorem run_cls (negated : Bool) (as : List α) (t : Thread α) :
    (cls negated as).run t = t.next (inClass negated as) := rfl

@[simp] theorem run_bol (t : Thread α) : (bol : Re α).run t = if t.pos = 0 then [t] else [] := rfl

@[simp] theorem run_seq (r s : Re α) (t : Thread α) : (seq r s).run t = (r.run t).flatMap s.run := rfl

@[simp] theorem run_alt (r s : Re α) (t : Thread α) : (alt r s).run t = r.run t ++ s.run t := rfl

@[simp] theorem run_star (r : Re α) (t : Thread α) : (star r).run t = starIter r.run t.rest.length t := rfl

@[simp] theorem run_group (n : Nat) (r : Re α) (t : Thread α) :
    (group n r).run t = (r.run t).map fun t' => { t' with caps := (n, t.consumed t') :: t'.caps } := rfl

@[simp] theorem run_cat_nil (t : Thread α) : (cat ([] : List (Re α))).run t = [t] := rfl

@[simp] theorem run_cat_cons (r : Re α) (rs : List (Re α)) (t : Thread α) :
    (cat (r :: rs)).run t = (r.run t).flatMap (cat rs).run := rfl

theorem run_cat_singleton (r : Re α) (t : Thread α) : (cat [r]).run t = r.run t := by
  simp only [run_cat_cons]
  exact List.flatMap_singleton' _

/-! ## The first way -/

theorem head?_run_alt_of_head? {r : Re α} {t t' : Thread α} (s : Re α) (h : (r.run t).head? = some t') :
    ((alt r s).run t).head? = some t' := by
  simp [List.head?_append, h]

theorem head?_run_group {r : Re α} {t t' : Thread α} (n : Nat) (h : (r.run t).head? = some t') :
    ((group n r).run t).head? = some { t' with caps := (n, t.consumed t') :: t'.caps } := by
  simp [List.head?_map, h]

/-- A word of literals consumes itself. -/
theorem run_cat_lits (w : List α) (rs : List (Re α)) (pos : Nat) (v : List α) (caps : List (Nat × List α)) :
    (cat (w.map lit ++ rs)).run ⟨pos, w ++ v, caps⟩ = (cat rs).run ⟨pos + w.length, v, caps⟩ := by
  induction w generalizing pos with
  | nil => rfl
  | cons a w ih =>
    have hnext : (lit a).run ⟨pos, a :: (w ++ v), caps⟩ = [⟨pos + 1, w ++ v, caps⟩] := by
      simp [Thread.next_cons]
    rw [List.map_cons, List.cons_append, List.cons_append, run_cat_cons, hnext, List.flatMap_singleton, ih]
    simp only [List.length_cons, Nat.add_assoc, Nat.add_comm 1]

theorem head?_run_star_cls {negated : Bool} {as : List α} {v r : List α}
    (hv : ∀ b ∈ v, inClass negated as b = true) (hr : ∀ b, r.head? = some b → inClass negated as b = false)
    (pos : Nat) (caps : List (Nat × List α)) :
    ((star (cls negated as)).run ⟨pos, v ++ r, caps⟩).head? = some ⟨pos + v.length, r, caps⟩ := by
  rw [run_star]
  exact head?_starIter_next hv hr caps _ pos (by simp)

/-- The search finds the first way from the start of the subject, if it has one. -/
theorem search_of_head? {r : Re α} {subject : List α} {t : Thread α}
    (h : (r.run { pos := 0, rest := subject }).head? = some t) : search r subject = some t := by
  simp [search, List.range_succ_eq_map, h]

end Run

end Re

end GatewayFabric.Backtrack
