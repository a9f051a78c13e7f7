import Mathlib.Data.List.TakeWhile

namespace OpenFsd
namespace Delimited

/-!
# Lists in brackets

A text over any symbols writes a list: its items as some grammar spells them,
a separator between any two, spaces around both, and a closing symbol at the
end.  From a reader of single items one obtains a reader of such lists.  It
reads exactly the lists of the grammar if the given reader reads exactly the
items, where an item ends as soon as a delimiter follows.
-/

universe u v w

variable {S : Type u} {A : Type v}

/-- The symbols that stand between items. -/
structure Layout (S : Type u) where
  space : S -> Bool
  separator : S
  closes : S -> Bool
  separator_not_space : space separator = false
  closing_not_space : forall symbol, closes symbol = true -> space symbol = false
  separator_not_closing : closes separator = false

namespace Layout

variable (L : Layout S)

def Delimits (symbol : S) : Prop :=
  L.space symbol = true ∨ symbol = L.separator ∨ L.closes symbol = true

instance [DecidableEq S] : DecidablePred L.Delimits :=
  fun _ => inferInstanceAs (Decidable (_ ∨ _ ∨ _))

/-- Nothing follows here, or a delimiter does. -/
def Ends (rest : List S) : Prop :=
  forall symbol, rest.head? = some symbol -> L.Delimits symbol

def Gap (text : List S) : Prop :=
  forall symbol, symbol ∈ text -> L.space symbol = true

def skip (text : List S) : List S :=
  text.dropWhile L.space

/-! ## Spaces -/

variable {L}

theorem space_eq_false {symbol : S} (plain : ¬ L.Delimits symbol) : L.space symbol = false :=
  Bool.eq_false_iff.mpr fun space => plain (Or.inl space)

theorem delimits_separator : L.Delimits L.separator :=
  Or.inr (Or.inl rfl)

theorem delimits_closing {close : S} (closing : L.closes close = true) : L.Delimits close :=
  Or.inr (Or.inr closing)

theorem closing_ne_separator {close : S} (closing : L.closes close = true) :
    L.separator ≠ close := by
  intro same
  have impossible := L.separator_not_closing
  rw [same, closing] at impossible
  cases impossible

theorem skip_append {gap : List S} {head : S} (spaces : L.Gap gap)
    (visible : L.space head = false) (tail : List S) :
    L.skip (gap ++ head :: tail) = head :: tail := by
  unfold skip
  induction gap with
  | nil =>
      apply List.dropWhile_cons_of_neg
      rw [visible]
      exact Bool.false_ne_true
  | cons first rest inductionHypothesis =>
      rw [List.cons_append, List.dropWhile_cons_of_pos (spaces first List.mem_cons_self)]
      exact inductionHypothesis fun symbol member =>
        spaces symbol (List.mem_cons_of_mem first member)

theorem exists_gap (text : List S) :
    Exists fun gap => L.Gap gap ∧ text = gap ++ L.skip text := by
  refine ⟨text.takeWhile L.space, ?_, List.takeWhile_append_dropWhile.symm⟩
  intro symbol member
  exact List.mem_takeWhile_imp member

/-- An item may end before spaces and a delimiter. -/
theorem ends_append {gap : List S} {head : S} (spaces : L.Gap gap)
    (delimiter : L.Delimits head) (tail : List S) : L.Ends (gap ++ head :: tail) := by
  intro symbol shown
  cases gap with
  | nil =>
      cases shown
      exact delimiter
  | cons first rest =>
      cases shown
      exact Or.inl (spaces symbol List.mem_cons_self)

end Layout

/-! ## Grammar -/

/-- The items from the first one on, and the end of the list. -/
inductive Elements (L : Layout S) (R : A -> List S -> Prop) (close : S) :
    List A -> List S -> Prop
  | last {item : A} {text gap : List S} (spelled : R item text) (spaces : L.Gap gap) :
      Elements L R close [item] (text ++ (gap ++ [close]))
  | more {item : A} {items : List A} {text before after tail : List S} (spelled : R item text)
      (spacesBefore : L.Gap before) (spacesAfter : L.Gap after)
      (others : Elements L R close items tail) :
      Elements L R close (item :: items) (text ++ (before ++ L.separator :: (after ++ tail)))

/-- What follows the opening symbol. -/
inductive Bracketed (L : Layout S) (R : A -> List S -> Prop) (close : S) :
    List A -> List S -> Prop
  | empty {gap : List S} (spaces : L.Gap gap) : Bracketed L R close [] (gap ++ [close])
  | elements {items : List A} {gap tail : List S} (spaces : L.Gap gap)
      (listed : Elements L R close items tail) : Bracketed L R close items (gap ++ tail)

/-- The grammar of the items matters only at the items of the list. -/
theorem Elements.mono {L : Layout S} {R T : A -> List S -> Prop} {close : S} {items : List A}
    {text : List S} (listed : Elements L R close items text)
    (le : forall item, item ∈ items -> forall text, R item text -> T item text) :
    Elements L T close items text := by
  induction listed with
  | last spelled spaces => exact .last (le _ List.mem_cons_self _ spelled) spaces
  | more spelled spacesBefore spacesAfter others inductionHypothesis =>
      refine .more (le _ List.mem_cons_self _ spelled) spacesBefore spacesAfter ?_
      exact inductionHypothesis fun item member => le item (List.mem_cons_of_mem _ member)

theorem Bracketed.mono {L : Layout S} {R T : A -> List S -> Prop} {close : S} {items : List A}
    {text : List S} (listed : Bracketed L R close items text)
    (le : forall item, item ∈ items -> forall text, R item text -> T item text) :
    Bracketed L T close items text := by
  cases listed with
  | empty spaces => exact .empty spaces
  | elements spaces listed => exact .elements spaces (listed.mono le)

/-- What holds of every item that is spelled holds of every item of a list. -/
theorem Bracketed.forall_mem {L : Layout S} {R : A -> List S -> Prop} {close : S} {items : List A}
    {text : List S} {Q : A -> Prop} (listed : Bracketed L R close items text)
    (each : forall item text, R item text -> Q item) : forall item, item ∈ items -> Q item := by
  cases listed with
  | empty spaces =>
      intro item member
      cases member
  | elements spaces listed =>
      induction listed with
      | last spelled spaces => exact List.forall_mem_singleton.mpr (each _ _ spelled)
      | more spelled spacesBefore spacesAfter others inductionHypothesis =>
          exact List.forall_mem_cons.mpr ⟨each _ _ spelled, inductionHypothesis⟩

/-! ## Writing -/

/-- The texts with one separator between any two of them, and no spaces. -/
def joined (L : Layout S) : List (List S) -> List S
  | [] => []
  | [text] => text
  | text :: rest => text ++ L.separator :: joined L rest

/-- A list is written from texts of its items. -/
theorem bracketed_joined {B : Type w} {L : Layout S} {R : A -> List S -> Prop} (close : S)
    {read : B -> A} {write : B -> List S} {items : List B}
    (spelled : forall item, item ∈ items -> R (read item) (write item)) :
    Bracketed L R close (items.map read) (joined L (items.map write) ++ [close]) := by
  have none : L.Gap [] := nofun
  have listed : items ≠ [] ->
      Elements L R close (items.map read) (joined L (items.map write) ++ [close]) := by
    induction items with
    | nil => exact fun impossible => absurd rfl impossible
    | cons first rest inductionHypothesis =>
        intro _
        rcases List.forall_mem_cons.mp spelled with ⟨own, others⟩
        cases rest with
        | nil => exact .last own none
        | cons second rest =>
            have later := inductionHypothesis others (List.cons_ne_nil second rest)
            have whole := Elements.more own none none later
            rw [List.map_cons, List.map_cons, List.map_cons, joined, List.append_assoc]
            · exact whole
            · exact List.cons_ne_nil _ _
  cases items with
  | nil => exact .empty none
  | cons first rest =>
      have whole := Bracketed.elements none (listed (List.cons_ne_nil first rest))
      exact whole

/-! ## Readers -/

/-- A reader of items, and the grammar of the items it reads. -/
structure Reads (L : Layout S) (read : List S -> Option (A × List S)) (R : A -> List S -> Prop) :
    Prop where
  starts : forall {item : A} {text : List S}, R item text ->
    Exists fun head => Exists fun tail => text = head :: tail ∧ ¬ L.Delimits head
  complete : forall {item : A} {text rest : List S}, R item text -> L.Ends rest ->
    read (text ++ rest) = some (item, rest)
  sound : forall {item : A} {input rest : List S}, read input = some (item, rest) ->
    Exists fun text => input = text ++ rest ∧ R item text

theorem Elements.starts {L : Layout S} {read : List S -> Option (A × List S)}
    {R : A -> List S -> Prop} {close : S} {items : List A} {text : List S}
    (reads : Reads L read R) (listed : Elements L R close items text) :
    Exists fun head => Exists fun tail => text = head :: tail ∧ ¬ L.Delimits head := by
  cases listed with
  | last spelled spaces =>
      rcases reads.starts spelled with ⟨head, tail, same, plain⟩
      rw [same]
      exact ⟨head, _, List.cons_append, plain⟩
  | more spelled spacesBefore spacesAfter others =>
      rcases reads.starts spelled with ⟨head, tail, same, plain⟩
      rw [same]
      exact ⟨head, _, List.cons_append, plain⟩

variable [DecidableEq S]

/-- One item and its delimiter at a time.  Every round consumes a symbol, so
the length of the input is fuel enough. -/
def readElements (L : Layout S) (read : List S -> Option (A × List S)) (close : S) :
    Nat -> List S -> Option (List A × List S)
  | 0, _ => none
  | fuel + 1, input =>
      match read input with
      | none => none
      | some (item, rest) =>
          match L.skip rest with
          | [] => none
          | symbol :: tail =>
              if symbol = close then some ([item], tail)
              else if symbol = L.separator then
                (readElements L read close fuel (L.skip tail)).map fun (items, rest) =>
                  (item :: items, rest)
              else none

def readBracketed (L : Layout S) (read : List S -> Option (A × List S)) (close : S)
    (input : List S) : Option (List A × List S) :=
  match L.skip input with
  | [] => none
  | symbol :: tail =>
      if symbol = close then some ([], tail)
      else readElements L read close (symbol :: tail).length (symbol :: tail)

section Reading

variable {L : Layout S} {read : List S -> Option (A × List S)} {R : A -> List S -> Prop} {close : S}

theorem readElements_complete (reads : Reads L read R) (closing : L.closes close = true)
    {items : List A} {text : List S} (listed : Elements L R close items text) (rest : List S)
    {fuel : Nat} (enough : text.length ≤ fuel) :
    readElements L read close fuel (text ++ rest) = some (items, rest) := by
  induction listed generalizing fuel with
  | @last item text gap spelled spaces =>
      cases fuel with
      | zero =>
          rw [List.length_append, List.length_append, List.length_singleton] at enough
          omega
      | succ fuel =>
          have ends := L.ends_append spaces (Layout.delimits_closing closing) rest
          rw [List.append_assoc, List.append_assoc, List.singleton_append, readElements,
            reads.complete spelled ends]
          simp only [Layout.skip_append spaces (L.closing_not_space close closing), if_true]
  | @more item items text before after tail spelled spacesBefore spacesAfter others
      inductionHypothesis =>
      cases fuel with
      | zero =>
          rw [List.length_append, List.length_append, List.length_cons] at enough
          omega
      | succ fuel =>
          have ends := L.ends_append spacesBefore Layout.delimits_separator (after ++ tail ++ rest)
          have remaining : tail.length ≤ fuel := by
            simp only [List.length_append, List.length_cons] at enough
            omega
          have later := inductionHypothesis remaining
          rcases Elements.starts reads others with ⟨head, others, same, plain⟩
          have skipped : L.skip (after ++ tail ++ rest) = tail ++ rest := by
            rw [same, List.append_assoc, List.cons_append]
            exact Layout.skip_append spacesAfter (Layout.space_eq_false plain) _
          rw [List.append_assoc, List.append_assoc, List.cons_append, readElements,
            reads.complete spelled ends]
          simp only [Layout.skip_append spacesBefore L.separator_not_space, skipped, later,
            if_neg (Layout.closing_ne_separator closing), if_true, Option.map_some]

theorem readElements_sound (reads : Reads L read R) {fuel : Nat} {items : List A}
    {input rest : List S} (accepted : readElements L read close fuel input = some (items, rest)) :
    Exists fun text => input = text ++ rest ∧ Elements L R close items text := by
  induction fuel generalizing items input with
  | zero => cases accepted
  | succ fuel inductionHypothesis =>
      rw [readElements] at accepted
      cases first : read input with
      | none =>
          rw [first] at accepted
          cases accepted
      | some found =>
          rcases found with ⟨item, remaining⟩
          rw [first] at accepted
          rcases reads.sound first with ⟨text, same, spelled⟩
          rcases L.exists_gap remaining with ⟨gap, spaces, split⟩
          cases next : L.skip remaining with
          | nil =>
              simp only [next] at accepted
              cases accepted
          | cons symbol tail =>
              simp only [next] at accepted
              rw [next] at split
              by_cases closed : symbol = close
              · rw [if_pos closed] at accepted
                cases accepted
                refine ⟨text ++ (gap ++ [close]), ?_, .last spelled spaces⟩
                rw [same, split, closed, List.append_assoc, List.append_assoc,
                  List.singleton_append]
              · rw [if_neg closed] at accepted
                by_cases separated : symbol = L.separator
                · rw [if_pos separated, Option.map_eq_some_iff] at accepted
                  rcases accepted with ⟨⟨others, ending⟩, more, result⟩
                  cases result
                  rcases inductionHypothesis more with ⟨later, rejoined, listed⟩
                  rcases L.exists_gap tail with ⟨after, spacesAfter, splitAfter⟩
                  refine ⟨_, ?_, .more spelled spaces spacesAfter listed⟩
                  rw [same, split, separated, splitAfter, rejoined]
                  simp only [List.append_assoc, List.cons_append]
                · rw [if_neg separated] at accepted
                  cases accepted

/-- Every list of the grammar is read, whatever follows it. -/
theorem readBracketed_complete (reads : Reads L read R) (closing : L.closes close = true)
    {items : List A} {text : List S} (listed : Bracketed L R close items text) (rest : List S) :
    readBracketed L read close (text ++ rest) = some (items, rest) := by
  unfold readBracketed
  cases listed with
  | empty spaces =>
      rw [List.append_assoc, List.singleton_append,
        Layout.skip_append spaces (L.closing_not_space close closing)]
      exact if_pos rfl
  | @elements _ gap tail spaces listed =>
      rcases Elements.starts reads listed with ⟨head, others, same, plain⟩
      have distinct : head ≠ close := by
        intro equal
        rw [equal] at plain
        exact plain (Layout.delimits_closing closing)
      have enough : tail.length ≤ (tail ++ rest).length := by
        rw [List.length_append]
        exact Nat.le_add_right _ _
      have listedRead := readElements_complete reads closing listed rest enough
      rw [same, List.cons_append] at listedRead
      rw [same, List.append_assoc, List.cons_append,
        Layout.skip_append spaces (Layout.space_eq_false plain)]
      exact (if_neg distinct).trans listedRead

/-- Only lists of the grammar are read. -/
theorem readBracketed_sound (reads : Reads L read R) {items : List A} {input rest : List S}
    (accepted : readBracketed L read close input = some (items, rest)) :
    Exists fun text => input = text ++ rest ∧ Bracketed L R close items text := by
  unfold readBracketed at accepted
  rcases L.exists_gap input with ⟨gap, spaces, split⟩
  cases next : L.skip input with
  | nil =>
      rw [next] at accepted
      cases accepted
  | cons symbol tail =>
      rw [next] at accepted split
      by_cases closed : symbol = close
      · simp only [if_pos closed] at accepted
        cases accepted
        refine ⟨_, ?_, .empty spaces⟩
        rw [split, closed, List.append_assoc, List.singleton_append]
      · simp only [if_neg closed] at accepted
        rcases readElements_sound reads accepted with ⟨text, same, listed⟩
        refine ⟨_, ?_, .elements spaces listed⟩
        rw [split, same, List.append_assoc]

end Reading

end Delimited
end OpenFsd
