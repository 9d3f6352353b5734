import Mathlib.Data.List.Basic
import LocalSwarm.Wire.Field

/-! Which bytes a reader takes for which values. A reader that is put together from readers takes
the spellings of its parts one after the other: `Reads.bind`, and `Reads.field` for records that are
written in one way only. Main statements on bytes that are read to their end:
`Reads.readAll_eq_ok_iff` and `Reads.delimited`. -/
namespace LocalSwarm.Wire

variable {α β γ : Type}

/-- A reader takes every spelling of a value, whatever follows it, and it takes nothing else. Of a
spelling that breaks off it says that it is truncated. -/
structure Reads (read : Reader α) (Spells : α → Bytes → Prop) : Prop where
  takes : ∀ {a used}, Spells a used → ∀ rest, read (used ++ rest) = .ok (a, rest)
  splits : ∀ {bytes a rest}, read bytes = .ok (a, rest) →
    ∃ used, Spells a used ∧ bytes = used ++ rest
  breaks : ∀ {a cut missing}, Spells a (cut ++ missing) → missing ≠ [] →
    read cut = .error .truncated

/-- A value that fits is spelled as it is written, and in no other way. -/
def WrittenAs (write : α → Bytes) (Fits : α → Prop) (a : α) (used : Bytes) : Prop :=
  Fits a ∧ used = write a

def Followed (First : α → Bytes → Prop) (Then : α → β → Bytes → Prop) (b : β)
    (used : Bytes) : Prop :=
  ∃ a front back, First a front ∧ Then a b back ∧ used = front ++ back

@[simp] theorem followed_writtenAs {write : α → Bytes} {Fits : α → Prop}
    {Then : α → β → Bytes → Prop} {b : β} {used : Bytes} :
    Followed (WrittenAs write Fits) Then b used ↔
      ∃ a, Fits a ∧ ∃ back, Then a b back ∧ used = write a ++ back := by
  constructor
  · rintro ⟨a, _, back, ⟨fits, rfl⟩, after, rfl⟩
    exact ⟨a, fits, back, after, rfl⟩
  · rintro ⟨a, fits, back, after, rfl⟩
    exact ⟨a, _, back, ⟨fits, rfl⟩, after, rfl⟩

theorem bind_apply (read : Reader α) (next : α → Reader β) (bytes : Bytes) :
    (read >>= next) bytes = match read bytes with
      | .ok (a, rest) => next a rest
      | .error e => .error e := by
  change (read bytes).bind _ = _
  cases read bytes <;> rfl

theorem Reads.congr {read : Reader α} {Spells Spells' : α → Bytes → Prop} (h : Reads read Spells)
    (same : ∀ a used, Spells a used ↔ Spells' a used) : Reads read Spells' := by
  obtain rfl : Spells = Spells' := funext fun a => funext fun used => propext (same a used)
  exact h

theorem Reads.bind {read : Reader α} {next : α → Reader β} {First : α → Bytes → Prop}
    {Then : α → β → Bytes → Prop} (first : Reads read First)
    (second : ∀ a, Reads (next a) (Then a)) :
    Reads (read >>= next) (Followed First Then) := by
  constructor
  case takes =>
    rintro b _ ⟨a, front, back, taken, after, rfl⟩ rest
    rw [bind_apply, List.append_assoc, first.takes taken]
    exact (second a).takes after rest
  case splits =>
    intro bytes b rest done
    rw [bind_apply] at done
    split at done
    · rename_i a tail read
      obtain ⟨front, taken, rfl⟩ := first.splits read
      obtain ⟨back, after, rfl⟩ := (second a).splits done
      exact ⟨front ++ back, ⟨a, front, back, taken, after, rfl⟩, (List.append_assoc _ _ _).symm⟩
    · cases done
  case breaks =>
    rintro b cut missing ⟨a, front, back, taken, after, same⟩ short
    rw [bind_apply]
    -- The cut is within the first part, right behind it, or within the second one.
    rcases List.append_eq_append_iff.1 same with ⟨more, rfl, rfl⟩ | ⟨more, rfl, rfl⟩
    · cases more with
      | nil =>
        have whole := first.takes (by simpa using taken) []
        rw [List.append_nil] at whole
        rw [whole]
        exact (second a).breaks (by exact after) short
      | cons byte more => rw [first.breaks taken (List.cons_ne_nil _ _)]
    · rw [first.takes taken]
      exact (second a).breaks after short

theorem reads_pure (a : α) : Reads (pure a) fun b used => b = a ∧ used = [] := by
  constructor
  case takes =>
    rintro b _ ⟨rfl, rfl⟩ rest
    rfl
  case splits =>
    intro bytes b rest done
    cases done
    exact ⟨[], ⟨rfl, rfl⟩, rfl⟩
  case breaks =>
    rintro b cut missing ⟨-, same⟩ short
    exact absurd (List.append_eq_nil_iff.1 same).2 short

theorem reads_fail (e : DecodeError) : Reads (fail e : Reader α) fun _ _ => False :=
  ⟨False.elim, nofun, False.elim⟩

theorem reads_take (count : Nat) :
    Reads (take count) (WrittenAs id fun bytes => bytes.length = count) := by
  constructor
  case takes =>
    rintro bytes _ ⟨rfl, rfl⟩ rest
    simp [take]
  case splits =>
    intro bytes head rest done
    simp only [take, List.splitAt_eq] at done
    split at done
    · cases done
      exact ⟨bytes.take count, ⟨by assumption, rfl⟩, (List.take_append_drop count bytes).symm⟩
    · cases done
  case breaks =>
    rintro bytes cut missing ⟨length, rfl⟩ short
    have less : cut.length < count := by
      have := List.length_pos_iff.2 short
      rw [List.length_append] at length
      omega
    have few : (cut.take count).length ≠ count := by
      rw [List.length_take]
      omega
    simp only [take, List.splitAt_eq]
    rw [if_neg few]

theorem Reads.map {read : Reader α} {write : α → Bytes} {Fits : α → Prop}
    (h : Reads read (WrittenAs write Fits)) (f : α → β) :
    Reads (read >>= fun a => pure (f a)) fun b used => ∃ a, Fits a ∧ b = f a ∧ used = write a :=
  (h.bind fun a => reads_pure (f a)).congr fun b used => by
    rw [followed_writtenAs]
    constructor
    · rintro ⟨a, fits, _, ⟨rfl, rfl⟩, rfl⟩
      exact ⟨a, fits, rfl, List.append_nil _⟩
    · rintro ⟨a, fits, rfl, rfl⟩
      exact ⟨a, fits, [], ⟨rfl, rfl⟩, (List.append_nil _).symm⟩

/-! ### Records

The fields of a record are read one after the other. `Known` is what those read before say of it. -/

theorem Reads.field {read : Reader α} {write : α → Bytes} {Fits : α → Prop}
    (first : Reads read (WrittenAs write Fits)) (get : β → α) {next : α → Reader β}
    {writeRest : β → Bytes} {Known FitsRest : β → Prop}
    (second : ∀ a,
      Reads (next a) (WrittenAs writeRest fun b => (get b = a ∧ Known b) ∧ FitsRest b)) :
    Reads (read >>= next) (WrittenAs (fun b => write (get b) ++ writeRest b)
      fun b => Known b ∧ Fits (get b) ∧ FitsRest b) :=
  (first.bind second).congr fun b used => by
    rw [followed_writtenAs]
    constructor
    · rintro ⟨_, fits, _, ⟨⟨⟨rfl, known⟩, rest⟩, rfl⟩, rfl⟩
      exact ⟨⟨known, fits, rest⟩, rfl⟩
    · rintro ⟨⟨known, fits, rest⟩, rfl⟩
      exact ⟨get b, fits, writeRest b, ⟨⟨⟨rfl, known⟩, rest⟩, rfl⟩, rfl⟩

theorem Reads.last {read : Reader α} {write : α → Bytes} {Fits : α → Prop}
    (first : Reads read (WrittenAs write Fits)) (get : β → α) {make : α → β} {Known : β → Prop}
    (known : ∀ a b, get b = a ∧ Known b ↔ b = make a) :
    Reads (read >>= fun a => pure (make a)) (WrittenAs (fun b => write (get b))
      fun b => Known b ∧ Fits (get b)) :=
  (first.map make).congr fun b used => by
    constructor
    · rintro ⟨a, fits, made, rfl⟩
      obtain ⟨rfl, rest⟩ := (known a b).2 made
      exact ⟨⟨rest, fits⟩, rfl⟩
    · rintro ⟨⟨rest, fits⟩, rfl⟩
      exact ⟨get b, fits, (known _ b).1 ⟨rfl, rest⟩, rfl⟩

theorem Reads.whole {read : Reader α} {write write' : α → Bytes} (Known : α → Prop)
    {Fits Fits' : α → Prop} (h : Reads read (WrittenAs write fun a => Known a ∧ Fits a))
    (limits : ∀ a, Known a ∧ Fits a ↔ Fits' a) (written : ∀ a, write a = write' a) :
    Reads read (WrittenAs write' Fits') :=
  h.congr fun a used => by rw [WrittenAs, WrittenAs, limits, written]

/-! ### Cases

`make` puts a case of a type together from its fields, and nothing else is spelled here. -/

theorem Reads.made {read : Reader α} {write : α → Bytes} {Fits : α → Prop}
    (first : Reads read (WrittenAs write Fits)) (make : α → γ) {Spells : γ → Bytes → Prop}
    (same : ∀ a used, Spells (make a) used ↔ Fits a ∧ used = write a)
    (only : ∀ c used, Spells c used → ∃ a, c = make a) :
    Reads (read >>= fun a => pure (make a)) Spells :=
  (first.map make).congr fun c used => by
    constructor
    · rintro ⟨a, fits, rfl, rfl⟩
      exact (same a _).2 ⟨fits, rfl⟩
    · intro spelled
      obtain ⟨a, rfl⟩ := only c used spelled
      obtain ⟨fits, rfl⟩ := (same a used).1 spelled
      exact ⟨a, fits, rfl, rfl⟩

theorem Reads.made₂ {readA : Reader α} {readB : Reader β} {writeA : α → Bytes} {writeB : β → Bytes}
    {FitsA : α → Prop} {FitsB : β → Prop} (first : Reads readA (WrittenAs writeA FitsA))
    (second : Reads readB (WrittenAs writeB FitsB)) (make : α → β → γ) {Spells : γ → Bytes → Prop}
    (same : ∀ a b used, Spells (make a b) used ↔ FitsA a ∧ FitsB b ∧ used = writeA a ++ writeB b)
    (only : ∀ c used, Spells c used → ∃ a b, c = make a b) :
    Reads (readA >>= fun a => readB >>= fun b => pure (make a b)) Spells :=
  (first.bind fun a => second.map (make a)).congr fun c used => by
    rw [followed_writtenAs]
    constructor
    · rintro ⟨a, fits, _, ⟨b, fits', rfl, rfl⟩, rfl⟩
      exact (same a b _).2 ⟨fits, fits', rfl⟩
    · intro spelled
      obtain ⟨a, b, rfl⟩ := only c used spelled
      obtain ⟨fits, fits', rfl⟩ := (same a b used).1 spelled
      exact ⟨a, fits, _, ⟨b, fits', rfl, rfl⟩, rfl⟩

/-! ### Reading to the end -/

theorem Reads.readAll_eq_ok_iff {read : Reader α} {Spells : α → Bytes → Prop}
    (h : Reads read Spells) {bytes : Bytes} {a : α} :
    readAll read bytes = .ok a ↔ Spells a bytes := by
  constructor
  · intro whole
    unfold readAll at whole
    split at whole
    · rename_i b done
      cases whole
      obtain ⟨used, spelled, rfl⟩ := h.splits done
      rwa [List.append_nil]
    · cases whole
    · cases whole
  · intro spelled
    have done := h.takes spelled []
    rw [List.append_nil] at done
    rw [readAll, done]

/-- No other bytes are accepted of those that begin with the accepted ones or that these begin
with, and it is said why. -/
structure Delimited (decode : Bytes → Except DecodeError α) (bytes : Bytes) : Prop where
  cut : ∀ front, front <+: bytes → front ≠ bytes → decode front = .error .truncated
  extended : ∀ tail, tail ≠ [] → decode (bytes ++ tail) = .error (.trailingBytes tail.length)
  alone : ∀ bytes' a, decode bytes' = .ok a → bytes <+: bytes' → bytes = bytes'

theorem Reads.delimited {read : Reader α} {Spells : α → Bytes → Prop} (h : Reads read Spells)
    {bytes : Bytes} {a : α} (accepted : readAll read bytes = .ok a) :
    Delimited (readAll read) bytes := by
  have spelled := h.readAll_eq_ok_iff.1 accepted
  have extended (tail : Bytes) (more : tail ≠ []) :
      readAll read (bytes ++ tail) = .error (.trailingBytes tail.length) := by
    obtain ⟨byte, tail, rfl⟩ := List.exists_cons_of_ne_nil more
    rw [readAll, h.takes spelled]
  refine ⟨?cut, extended, ?alone⟩
  case cut =>
    rintro front ⟨missing, rfl⟩ shorter
    have short : missing ≠ [] := by
      rintro rfl
      exact shorter (List.append_nil front).symm
    rw [readAll, h.breaks spelled short]
  case alone =>
    rintro _ b accepted' ⟨tail, rfl⟩
    by_contra longer
    have more : tail ≠ [] := by
      rintro rfl
      exact longer (List.append_nil bytes).symm
    rw [extended tail more] at accepted'
    cases accepted'

end LocalSwarm.Wire
