import Panel.Text.BreakClass

/-!
# User-perceived characters

A text divides into clusters, each of which a reader takes for one character: a letter with its
marks, a Hangul syllable, a flag, a sequence of joined emoji, an Indic conjunct.  Whether a
character joins the cluster before it depends on what precedes it, of which a `Context` remembers
just enough.

* `flatten_clusters`: the clusters put together are the text.
-/

namespace Panel.Text

/-- How far the text before a place is on the way to a conjunct of two consonants. -/
inductive Conjunct where
  | none
  /-- It ends in a consonant, perhaps with marks. -/
  | begun
  /-- A linker follows the consonant. -/
  | linked
deriving DecidableEq, Repr

/-- What the text before a place says about a boundary there. -/
structure Context where
  /-- The class of the last character. -/
  previous : Option BreakClass
  /-- The text ends in an odd number of regional indicators. -/
  oddFlags : Bool
  /-- The text ends in a pictograph, perhaps with marks. -/
  pictograph : Bool
  /-- The text ends in a pictograph, perhaps with marks, and a joiner. -/
  joinedPictograph : Bool
  conjunct : Conjunct
deriving DecidableEq, Repr

namespace Context

/-- Before the first character. -/
def start : Context := ⟨none, false, false, false, .none⟩

/-- After one more character. -/
def after (ctx : Context) (c : Char) : Context where
  previous := some (breakClass c)
  oddFlags := breakClass c = .regionalIndicator && !ctx.oddFlags
  pictograph := isPictographic c || (breakClass c = .extend && ctx.pictograph)
  joinedPictograph := breakClass c = .joiner && ctx.pictograph
  conjunct :=
    if isConjunctConsonant c then .begun
    else if isConjunctLinker c then (if ctx.conjunct = .none then .none else .linked)
    else if isConjunctExtend c then ctx.conjunct
    else .none

end Context

/-- Whether a class stands alone, whatever surrounds it. -/
def BreakClass.isControl : BreakClass → Bool
  | carriageReturn => true
  | lineFeed => true
  | control => true
  | _ => false

/-- Whether two parts of Hangul syllables form one. -/
def BreakClass.continuesSyllable : BreakClass → BreakClass → Bool
  | leadingJamo, leadingJamo => true
  | leadingJamo, vowelJamo => true
  | leadingJamo, openSyllable => true
  | leadingJamo, closedSyllable => true
  | openSyllable, vowelJamo => true
  | openSyllable, trailingJamo => true
  | vowelJamo, vowelJamo => true
  | vowelJamo, trailingJamo => true
  | closedSyllable, trailingJamo => true
  | trailingJamo, trailingJamo => true
  | _, _ => false

/-- Whether a class attaches to whatever comes before it. -/
def BreakClass.attaches : BreakClass → Bool
  | extend => true
  | joiner => true
  | spacingMark => true
  | _ => false

/-- Whether a character belongs to the cluster of the one before it. -/
def Context.joins (ctx : Context) (c : Char) : Bool :=
  let cls := breakClass c
  match ctx.previous with
  | none => false
  | some previous =>
    if previous.isControl || cls.isControl then
      previous = .carriageReturn && cls = .lineFeed
    else
      previous.continuesSyllable cls || cls.attaches || previous = .prepend ||
        (isConjunctConsonant c && ctx.conjunct = .linked) ||
        (isPictographic c && ctx.joinedPictograph) ||
        (cls = .regionalIndicator && ctx.oddFlags)

/-- The rest of the current cluster, and the clusters after it. -/
def divide (ctx : Context) : List Char → List Char × List (List Char)
  | [] => ([], [])
  | c :: rest =>
    let next := divide (ctx.after c) rest
    if ctx.joins c then (c :: next.1, next.2) else ([], (c :: next.1) :: next.2)

/-- The clusters of a text.  The first character begins one. -/
def clusters (s : List Char) : List (List Char) := (divide .start s).2

/-! ## Nothing is lost -/

theorem flatten_divide (ctx : Context) (s : List Char) :
    (divide ctx s).1 ++ (divide ctx s).2.flatten = s := by
  induction s generalizing ctx with
  | nil => rfl
  | cons c rest ih =>
    simp only [divide]
    split <;> simp [ih]

/-- The clusters put together are the text. -/
theorem flatten_clusters (s : List Char) : (clusters s).flatten = s := by
  have first : (divide .start s).1 = [] := by cases s <;> rfl
  have whole := flatten_divide .start s
  rwa [first, List.nil_append] at whole

end Panel.Text
