import FileQuery.Proofs.Query.Grammar
import FileQuery.Token.Scan

/-!
# Readers and the languages they read

The scan of a text is a source of tokens too: it shows its first token, and it fails when its last
token is left and the text breaks off there. Unlike a parser it can hold any tokens, so it is the
source over which readers are compared with the grammar.

`Reads` says what a reader has to do with a language. It takes what the language wants
(`accepts`), what it takes is in the language and does not depend on more than the token after it
(`accepted`), and when it refuses, all tokens before the one that it complains of could have been
continued (`refused`). The readers of a query are put together in sequence, and `Reads.bind` puts
together what they read.
-/

namespace FileQuery

open Grammar

namespace Scan

/-- Leaves the first token. After the last one the failure shows, if the text breaks off there. -/
def leave : Scan → Except UnexpectedInput Unit × Scan
  | ⟨[last], some failure⟩ => (.error failure, ⟨[last], some failure⟩)
  | ⟨_ :: rest, failure⟩ => (.ok (), ⟨rest, failure⟩)
  | ⟨[], failure⟩ => (.ok (), ⟨[], failure⟩)

theorem leave_cons {token : Token} {rest : List Token} {failure : Option UnexpectedInput}
    (goesOn : rest = [] → failure = none) :
    leave ⟨token :: rest, failure⟩ = (.ok (), ⟨rest, failure⟩) := by
  cases rest with
  | nil => simp [leave, goesOn rfl]
  | cons => rfl

instance : TokenSource Scan where
  next? scan := scan.tokens.head?
  leave := leave
  size scan := scan.tokens.length
  size_leave := by
    intro scan after token shown left
    obtain ⟨tokens, failure⟩ := scan
    obtain ⟨rest, rfl⟩ := List.head?_eq_some_iff.mp shown
    by_cases breaks : rest = [] → failure = none
    · rw [leave_cons breaks] at left
      obtain ⟨-, rfl⟩ := Prod.mk.inj left
      simp
    · obtain ⟨rfl, fails⟩ := Classical.not_imp.mp breaks
      obtain ⟨found, rfl⟩ := Option.ne_none_iff_exists'.mp fails
      simp [leave] at left

@[simp] theorem next?_eq (scan : Scan) : TokenSource.next? scan = scan.tokens.head? := rfl

@[simp] theorem leave_eq (scan : Scan) : TokenSource.leave scan = scan.leave := rfl

/-- A scan that shows no token when the text breaks off would hide the failure. -/
def Settled (scan : Scan) : Prop := scan.tokens = [] → scan.failure = none

/-- A scan that is not settled is a failure and nothing else. -/
theorem settled_or (scan : Scan) : scan.Settled ∨ ∃ failure, scan = ⟨[], some failure⟩ := by
  obtain ⟨tokens, failure⟩ := scan
  cases tokens <;> cases failure <;> simp [Settled]

end Scan

namespace Query

variable {α β : Type}

/-- The next token, if there is one, is of none of the given kinds. -/
def Stops (kinds : List TokenKind) (tokens : List Token) : Prop :=
  ∀ token ∈ tokens.head?, token.kind ∉ kinds

/-- Why a reader refuses a scan. Whatever it complains of, the tokens before could have gone on to
    something in the language. -/
inductive Refusal (language : List Token → α → Prop) (reader : Reading Scan α) (scan : Scan) :
    ParseError → Prop
  /-- A token does not fit, and it would not fit whatever came after it. -/
  | token (before after : List Token) {found : Token} {expected : List TokenKind}
    (split : scan.tokens = before ++ found :: after) (continues : Open language before)
    (sticks : ∀ more failure, (reader ⟨before ++ found :: more, failure⟩).1 =
      .error (.unexpectedToken expected found.lexeme)) :
    Refusal language reader scan (.unexpectedToken expected found.lexeme)
  /-- The text ends too early. -/
  | ending {expected : List TokenKind} (ends : scan.failure = none)
    (continues : Open language scan.tokens) :
    Refusal language reader scan (.unexpectedEnd expected)
  /-- The text breaks off. -/
  | failing {failure : UnexpectedInput} (breaks : scan.failure = some failure)
    (continues : Open language scan.tokens) :
    Refusal language reader scan (.unexpectedInput failure)

/-- A reader that takes what a language wants, and nothing else. Something in the language is taken
    only where no token of the stopping kinds follows it, since such a token would be taken too. -/
structure Reads (stops : List TokenKind) (language : List Token → α → Prop)
    (reader : Reading Scan α) : Prop where
  accepts : ∀ {used rest : List Token} {failure : Option UnexpectedInput} {value : α},
    language used value → Stops stops rest → (rest = [] → failure = none) →
      reader ⟨used ++ rest, failure⟩ = (.ok value, ⟨rest, failure⟩)
  accepted : ∀ {scan after : Scan} {value : α}, reader scan = (.ok value, after) →
    scan.Settled → ∃ used, scan = ⟨used ++ after.tokens, after.failure⟩ ∧ language used value ∧
      after.Settled ∧
      ∀ more failure, more.head? = after.tokens.head? → (more = [] → failure = none) →
        reader ⟨used ++ more, failure⟩ = (.ok value, ⟨more, failure⟩)
  refused : ∀ {scan after : Scan} {error : ParseError}, reader scan = (.error error, after) →
    scan.Settled → Refusal language reader scan error

/-- Something of one language and after it something of another one, which depends on it. -/
def Then (first : List Token → α → Prop) (second : α → List Token → β → Prop)
    (tokens : List Token) (result : β) : Prop :=
  ∃ before after value, tokens = before ++ after ∧ first before value ∧ second value after result

/-- A language with other values. -/
def Mapped (language : List Token → α → Prop) (change : α → β) (tokens : List Token)
    (result : β) : Prop :=
  ∃ value, language tokens value ∧ result = change value

/-- Two readers in sequence refuse what the first one refuses. -/
theorem bind_fails {first : Reading Scan α} {second : α → Reading Scan β} {scan : Scan}
    {error : ParseError} (fails : (first scan).1 = .error error) :
    ((first >>= second) scan).1 = .error error := by
  rw [bind_apply]
  split
  · rename_i read
    simp [read] at fails
  · rename_i read
    simpa [read] using fails

section Refusal

variable {language : List Token → α → Prop} {inner : List Token → β → Prop}
  {reader : Reading Scan α} {part : Reading Scan β} {scan : Scan} {error : ParseError}

/-- A refusal by the part of a reader that reads first. -/
theorem Refusal.first (refusal : Refusal inner part scan error)
    (fails : ∀ {other : Scan} {error : ParseError}, other.tokens.head? = scan.tokens.head? →
      (part other).1 = .error error → (reader other).1 = .error error)
    (opens : ∀ tokens, Open inner tokens → Open language tokens) :
    Refusal language reader scan error := by
  cases refusal with
  | token before after split continues sticks =>
    refine .token before after split (opens _ continues) fun more failure =>
      fails ?_ (sticks more failure)
    rw [split]
    simp [List.head?_append]
  | ending ends continues => exact .ending ends (opens _ continues)
  | failing breaks continues => exact .failing breaks (opens _ continues)

/-- A refusal by the part of a reader that reads what is left after some tokens. -/
theorem Refusal.later {used : List Token} {after : Scan}
    (refusal : Refusal inner part after error)
    (left : scan = ⟨used ++ after.tokens, after.failure⟩)
    (fails : ∀ {more : List Token} {failure : Option UnexpectedInput} {error : ParseError},
      more.head? = after.tokens.head? → (more = [] → failure = none) →
      (part ⟨more, failure⟩).1 = .error error → (reader ⟨used ++ more, failure⟩).1 = .error error)
    (opens : ∀ tokens, Open inner tokens → Open language (used ++ tokens)) :
    Refusal language reader scan error := by
  subst left
  cases refusal with
  | @token before rest found expected split continues sticks =>
    refine .token (used ++ before) rest ?_ (opens _ continues) ?_
    · rw [split, List.append_assoc]
    · intro more failure
      rw [List.append_assoc]
      refine fails ?_ (by simp) (sticks more failure)
      rw [split]
      simp [List.head?_append]
  | ending ends continues => exact .ending ends (opens _ continues)
  | failing breaks continues => exact .failing breaks (opens _ continues)

end Refusal

section Reads

variable {stops : List TokenKind} {language : List Token → α → Prop} {reader : Reading Scan α}

/-- The empty beginning of a language can be continued: a reader that is given nothing either
    takes nothing or misses something. -/
theorem Reads.open_nil (reads : Reads stops language reader) : Open language [] := by
  rcases read : reader ⟨[], none⟩ with ⟨error | value, after⟩
  · cases reads.refused read (fun _ => rfl) with
    | token _ _ split => simp at split
    | ending ends continues => exact continues
    | failing breaks => simp at breaks
  · obtain ⟨used, -, member, -, -⟩ := reads.accepted read (fun _ => rfl)
    exact ⟨used, value, member⟩

/-- A language that has the same members is read alike. -/
theorem Reads.congr {other : List Token → α → Prop} (reads : Reads stops language reader)
    (same : ∀ tokens value, language tokens value ↔ other tokens value) :
    Reads stops other reader := by
  have equal : language = other := by
    funext tokens value
    exact propext (same tokens value)
  exact equal ▸ reads

/-- A reader whose value is changed. -/
theorem Reads.map (reads : Reads stops language reader) (change : α → β) :
    Reads stops (Mapped language change) (reader >>= fun value => pure (change value)) where
  accepts := by
    rintro used rest failure result ⟨value, member, rfl⟩ ends goesOn
    rw [bind_apply, reads.accepts member ends goesOn]
    rfl
  accepted := by
    intro scan after result read settled
    obtain ⟨value, middle, readFirst, changed⟩ := bind_eq_ok read
    obtain ⟨same, rfl⟩ := Prod.mk.inj changed
    obtain rfl := Except.ok.inj same
    obtain ⟨used, split, member, settled', leads⟩ := reads.accepted readFirst settled
    refine ⟨used, split, ⟨value, member, rfl⟩, settled', fun more failure shown goesOn => ?_⟩
    rw [bind_apply, leads more failure shown goesOn]
    rfl
  refused := by
    intro scan after error read settled
    rw [bind_apply] at read
    split at read
    · simp [pure] at read
    · rename_i found middle readFirst
      obtain ⟨same, rfl⟩ := Prod.mk.inj read
      obtain rfl := Except.error.inj same
      refine (reads.refused readFirst settled).first ?_ ?_
      · exact fun _ fails => bind_fails fails
      · rintro tokens ⟨more, value, member⟩
        exact ⟨more, change value, value, member, rfl⟩

/-- Two readers in sequence read two languages in sequence, if nothing of the second language
    begins with a token that the first reader would take. -/
theorem Reads.bind {stops' : List TokenKind} {second : α → List Token → β → Prop}
    {later : α → Reading Scan β} (reads : Reads stops language reader)
    (readsLater : ∀ value, (∃ tokens, language tokens value) →
      Reads stops' (second value) (later value))
    (apart : ∀ value tokens rest result, second value tokens result → Stops stops' rest →
      Stops stops (tokens ++ rest)) :
    Reads stops' (Then language second) (reader >>= later) where
  accepts := by
    rintro used rest failure result ⟨before, after, value, rfl, member, member'⟩ ends goesOn
    have goesOn' : after ++ rest = [] → failure = none := by
      intro nothing
      exact goesOn (List.append_eq_nil_iff.mp nothing).2
    rw [bind_apply, List.append_assoc,
      reads.accepts member (apart value after rest result member' ends) goesOn']
    exact (readsLater value ⟨before, member⟩).accepts member' ends goesOn
  accepted := by
    intro scan final result read settled
    obtain ⟨value, middle, readFirst, readSecond⟩ := bind_eq_ok read
    obtain ⟨before, split, member, settled', leads⟩ := reads.accepted readFirst settled
    obtain ⟨after, split', member', settled'', leads'⟩ :=
      (readsLater value ⟨before, member⟩).accepted readSecond settled'
    refine ⟨before ++ after, ?_, ⟨before, after, value, rfl, member, member'⟩, settled'', ?_⟩
    · rw [split, List.append_assoc]
      simp [congrArg Scan.tokens split', congrArg Scan.failure split']
    · intro more failure shown goesOn
      have shown' : (after ++ more).head? = middle.tokens.head? := by
        rw [congrArg Scan.tokens split', List.head?_append, List.head?_append, shown]
      have goesOn' : after ++ more = [] → failure = none := by
        intro nothing
        exact goesOn (List.append_eq_nil_iff.mp nothing).2
      rw [List.append_assoc, bind_apply, leads (after ++ more) failure shown' goesOn']
      exact leads' more failure shown goesOn
  refused := by
    intro scan final error read settled
    rw [bind_apply] at read
    split at read
    · rename_i value middle readFirst
      obtain ⟨before, split, member, settled', leads⟩ := reads.accepted readFirst settled
      refine ((readsLater value ⟨before, member⟩).refused read settled').later split ?_ ?_
      · intro more failure error shown goesOn fails
        rw [bind_apply, leads more failure shown goesOn]
        exact fails
      · rintro tokens ⟨more, result, member'⟩
        refine ⟨more, result, before, tokens ++ more, value, ?_, member, member'⟩
        rw [List.append_assoc]
    · rename_i found middle readFirst
      obtain ⟨same, rfl⟩ := Prod.mk.inj read
      obtain rfl := Except.error.inj same
      refine (reads.refused readFirst settled).first ?_ ?_
      · exact fun _ fails => bind_fails fails
      · rintro tokens ⟨more, value, member⟩
        obtain ⟨after, result, member'⟩ := (readsLater value ⟨_, member⟩).open_nil
        refine ⟨more ++ after, result, tokens ++ more, after, value, ?_, member, member'⟩
        rw [List.append_assoc]

end Reads

end Query

end FileQuery
