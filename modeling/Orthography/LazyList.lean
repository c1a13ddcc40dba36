/-!
# Lazy lists

A search lists its results lazily, so that a caller who needs only the first ones pays for no
more.  Each operation comes with its effect on `toList`, and proofs speak of `toList` alone.
-/

namespace Orthography

inductive LazyList (α : Type) where
  | nil
  | cons (head : α) (tail : Unit → LazyList α)

namespace LazyList

variable {α β : Type}

def toList : LazyList α → List α
  | nil => []
  | cons a l => a :: (l ()).toList

def ofList : List α → LazyList α
  | [] => nil
  | a :: l => cons a fun _ ↦ ofList l

def append : LazyList α → (Unit → LazyList α) → LazyList α
  | nil, m => m ()
  | cons a l, m => cons a fun _ ↦ (l ()).append m

def map (f : α → β) : LazyList α → LazyList β
  | nil => nil
  | cons a l => cons (f a) fun _ ↦ (l ()).map f

def filter (p : α → Bool) : LazyList α → LazyList α
  | nil => nil
  | cons a l => if p a then cons a fun _ ↦ (l ()).filter p else (l ()).filter p

def flatMap (f : α → LazyList β) : LazyList α → LazyList β
  | nil => nil
  | cons a l => (f a).append fun _ ↦ (l ()).flatMap f

def head? : LazyList α → Option α
  | nil => none
  | cons a _ => some a

def isEmpty : LazyList α → Bool
  | nil => true
  | cons .. => false

/-- Tells the results one by one, until `found` asks to stop. -/
def anyM {m : Type → Type} [Monad m] (found : α → m Bool) : LazyList α → m Bool
  | nil => pure false
  | cons a l => found a <||> (l ()).anyM found

/-- Folds the results from the first on, but no further than until `stop` holds of the state. -/
def foldUntil (stop : β → Bool) (f : β → α → β) : β → LazyList α → β
  | b, nil => b
  | b, cons a l => if stop b then b else (l ()).foldUntil stop f (f b a)

@[simp] theorem toList_nil : (nil : LazyList α).toList = [] := rfl

@[simp] theorem toList_cons (a : α) (l : Unit → LazyList α) :
    (cons a l).toList = a :: (l ()).toList := rfl

@[simp] theorem toList_ofList (l : List α) : (ofList l).toList = l := by
  induction l with
  | nil => rfl
  | cons a l ih => simp [ofList, ih]

@[simp] theorem toList_append (l : LazyList α) (m : Unit → LazyList α) :
    (l.append m).toList = l.toList ++ (m ()).toList := by
  induction l with
  | nil => rfl
  | cons a l ih => simp [append, ih]

@[simp] theorem toList_map (f : α → β) (l : LazyList α) : (l.map f).toList = l.toList.map f := by
  induction l with
  | nil => rfl
  | cons a l ih => simp [map, ih]

@[simp] theorem toList_filter (p : α → Bool) (l : LazyList α) :
    (l.filter p).toList = l.toList.filter p := by
  induction l with
  | nil => rfl
  | cons a l ih =>
      simp only [filter, toList_cons]
      by_cases h : p a <;> simp [h, ih]

@[simp] theorem toList_flatMap (f : α → LazyList β) (l : LazyList α) :
    (l.flatMap f).toList = l.toList.flatMap fun a ↦ (f a).toList := by
  induction l with
  | nil => rfl
  | cons a l ih => simp [flatMap, ih]

theorem head?_eq (l : LazyList α) : l.head? = l.toList.head? := by cases l <;> rfl

theorem isEmpty_eq (l : LazyList α) : l.isEmpty = l.toList.isEmpty := by cases l <;> rfl

theorem foldUntil_of_stop {stop : β → Bool} {f : β → α → β} {b : β} (h : stop b)
    (l : LazyList α) : l.foldUntil stop f b = b := by
  cases l <;> simp [foldUntil, h]

/-- If nothing changes once `stop` holds, stopping there is no more than a saving. -/
theorem foldUntil_eq {stop : β → Bool} {f : β → α → β} (h : ∀ b a, stop b → f b a = b) (b : β)
    (l : LazyList α) : l.foldUntil stop f b = l.toList.foldl f b := by
  induction l generalizing b with
  | nil => rfl
  | cons a l ih =>
      rw [foldUntil, toList_cons, List.foldl_cons, ← ih]
      split
      · rename_i hb
        rw [h b a hb, foldUntil_of_stop hb]
      · rfl

/-- What holds at the start and is kept by each step holds of the whole fold, which takes no step
after it may stop. -/
theorem foldUntil_induction {stop : β → Bool} {f : β → α → β} {motive : β → Prop}
    (hstep : ∀ b a, motive b → stop b = false → motive (f b a)) {l : LazyList α} {b : β}
    (hb : motive b) : motive (l.foldUntil stop f b) := by
  induction l generalizing b with
  | nil => exact hb
  | cons a l ih =>
      rw [foldUntil]
      split
      · exact hb
      · rename_i hstop
        exact ih () (hstep b a hb (by simpa using hstop))

end LazyList
end Orthography
