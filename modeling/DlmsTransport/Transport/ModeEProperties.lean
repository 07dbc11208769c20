import DlmsTransport.Transport.ModeE
import Mathlib.Order.Fin.Basic

/-! What the mode E helper reads from an identification telegram, and the rate that
meter and host then agree on. -/

set_option autoImplicit false

namespace DlmsTransport.Transport

open Text

/-- The baud characters and the rates, by their common index. -/
abbrev Baud := Fin 7

namespace Baud

def digit (baud : Baud) : UInt8 := ascii '0' + UInt8.ofNat baud.val

def rate (baud : Baud) : Iec62056_21BaudRate := ⟨Int32.ofNat baud.val⟩

/-- Each rate is the double of the one before. -/
def speed (baud : Baud) : UInt32 := 300 * 2 ^ baud.val

@[simp] theorem code_rate (baud : Baud) : iec62056_21BaudRateCode baud.rate = baud.digit := by
  revert baud
  decide

@[simp] theorem value_rate (baud : Baud) : iec62056_21BaudRateValue baud.rate = baud.speed := by
  revert baud
  decide

@[simp] theorem isKnown_rate (baud : Baud) : isKnownBaudRate baud.rate = true := by
  revert baud
  decide

theorem rank_lt_iff (first second : Baud) :
    baudRank first.rate < baudRank second.rate ↔ first < second := by
  revert first second
  decide

theorem digit_injective {first second : Baud} (same : first.digit = second.digit) :
    first = second := by
  revert first second
  decide

theorem min_digit (first second : Baud) :
    min first.digit second.digit = (min first second).digit := by
  revert first second
  decide

theorem speed_le {first second : Baud} (le : first ≤ second) : first.speed ≤ second.speed := by
  revert first second
  decide

theorem speed_ne_zero (baud : Baud) : baud.speed ≠ 0 := by
  revert baud
  decide

theorem digit_plain (baud : Baud) :
    baud.digit ≠ ascii '\\' ∧ baud.digit ≠ ascii 'W' ∧ baud.digit ≠ ascii '\r' ∧
      baud.digit ≠ ascii '\n' := by
  revert baud
  decide

end Baud

theorem isKnownBaudRate_iff {baudRate : Iec62056_21BaudRate} :
    isKnownBaudRate baudRate = true ↔ ∃ baud : Baud, baudRate = baud.rate := by
  constructor
  · intro known
    unfold isKnownBaudRate at known
    split_ifs at known with h0 h1 h2 h3 h4 h5 h6
    exacts [⟨0, h0⟩, ⟨1, h1⟩, ⟨2, h2⟩, ⟨3, h3⟩, ⟨4, h4⟩, ⟨5, h5⟩, ⟨6, h6⟩]
  · intro known
    obtain ⟨baud, rfl⟩ := known
    exact baud.isKnown_rate

theorem baudRateFromCode_digit (baud : Baud) (baudRate : Iec62056_21BaudRate) :
    baudRateFromCode baud.digit baudRate = (.ok, baud.rate) := by
  match baud with
  | 0 | 1 | 2 | 3 | 4 | 5 | 6 => rfl

theorem baudRateFromCode_other {code : UInt8} (other : ∀ baud : Baud, code ≠ baud.digit)
    (baudRate : Iec62056_21BaudRate) :
    baudRateFromCode code baudRate = (.invalidArgument, baudRate) := by
  have apart : code ≠ ascii '0' ∧ code ≠ ascii '1' ∧ code ≠ ascii '2' ∧ code ≠ ascii '3' ∧
      code ≠ ascii '4' ∧ code ≠ ascii '5' ∧ code ≠ ascii '6' :=
    ⟨other 0, other 1, other 2, other 3, other 4, other 5, other 6⟩
  simp [baudRateFromCode, apart]

/-- An identification telegram by its fields, the identification part as `options`. -/
structure IdentificationTelegram where
  manufacturer : List UInt8
  baud : Baud
  options : List UInt8
  manufacturer_length : manufacturer.length = 3

def IdentificationTelegram.text (telegram : IdentificationTelegram) : List UInt8 :=
  ascii '/' :: telegram.manufacturer ++ telegram.baud.digit :: telegram.options ++
    [ascii '\r', ascii '\n']

/-- The marker of mode E. -/
def modeEMarker : List UInt8 := modeMarker ++ [ascii '2']

theorem modeEMarker_prefix_iff {text : List UInt8} :
    modeEMarker <+: text ↔ modeMarker <+: text ∧ text[2]? = some (ascii '2') := by
  match text with
  | [] | [_] | [_, _] => simp [modeEMarker, modeMarker, List.cons_prefix_cons]
  | first :: second :: third :: rest =>
      simp [modeEMarker, modeMarker, List.cons_prefix_cons, eq_comm, and_assoc]

/-- A string with the start and the end of a telegram, and room for a baud character. -/
structure Framed (input : List UInt8) : Prop where
  sized : 5 ≤ input.length
  starts : input[0]? = some (ascii '/')
  ends : [ascii '\r', ascii '\n'] <:+ input

/-- The first marker of the string is one of mode E. -/
def ReadsModeE (input : List UInt8) : Prop :=
  ∃ index, FirstAt modeMarker input index ∧ modeEMarker <+: input.drop index

/-- How a string is parsed, by the check that decides it. -/
inductive Parsed (input : List UInt8) : TransportStatus × Iec62056_21Identification → Prop where
  | unframed : ¬ Framed input → Parsed input (.invalidArgument, .new)
  | badBaud : Framed input → (∀ baud : Baud, input[4]? ≠ some baud.digit) →
      Parsed input (.invalidArgument, { Iec62056_21Identification.new with raw := input })
  | accepted {supportsModeE : Bool} (baud : Baud) : Framed input →
      input[4]? = some baud.digit → (supportsModeE = true ↔ ReadsModeE input) →
      Parsed input (.ok, ⟨input, supportsModeE, baud.rate⟩)

theorem ends_iff {input : List UInt8} {first second : UInt8} (sized : 2 ≤ input.length) :
    [first, second] <:+ input ↔
      input[input.length - 2]? = some first ∧ input[input.length - 1]? = some second := by
  rcases input.eq_nil_or_concat' with rfl | ⟨front, last, rfl⟩
  · simp at sized
  · rcases front.eq_nil_or_concat' with rfl | ⟨front, penultimate, rfl⟩
    · simp at sized
    · have apart : [first, second] <:+ front ++ [penultimate, last] ↔
          [first, second] = [penultimate, last] := by
        constructor
        · intro ends
          obtain ⟨other, same⟩ := ends
          exact (List.append_inj' same rfl).2
        · intro same
          exact ⟨front, by rw [same]⟩
      rw [List.append_assoc, List.singleton_append, apart]
      simp [eq_comm]

theorem framed_iff {input : List UInt8} :
    Framed input ↔ ¬ (input.length < 5 ∨ input[0]? ≠ some (ascii '/')) ∧
      ¬ (input.length < 2 ∨ input[input.length - 2]? ≠ some (ascii '\r') ∨
        input[input.length - 1]? ≠ some (ascii '\n')) := by
  constructor
  · intro framed
    obtain ⟨sized, starts, ends⟩ := framed
    have last := (ends_iff (by omega)).mp ends
    exact ⟨by simp [starts, sized], by simp [last]; omega⟩
  · intro passed
    obtain ⟨begun, ended⟩ := passed
    simp only [not_or, Nat.not_lt, not_not] at begun ended
    exact ⟨begun.1, begun.2, (ends_iff ended.1).mpr ended.2⟩

theorem readsModeE_of_find {input : List UInt8} {marker : Nat}
    (found : find modeMarker input = some marker) :
    ReadsModeE input ↔ input[marker + modeMarker.length]? = some (ascii '2') := by
  have first := (find_eq_some_iff (by simp [modeMarker])).mp found
  have marked : modeEMarker <+: input.drop marker ↔
      input[marker + modeMarker.length]? = some (ascii '2') := by
    rw [modeEMarker_prefix_iff, List.getElem?_drop]
    exact and_iff_right first.1
  rw [← marked]
  constructor
  · intro reads
    obtain ⟨index, starts, occurs⟩ := reads
    rwa [first.unique starts]
  · exact fun occurs => ⟨marker, first, occurs⟩

theorem not_readsModeE_of_find {input : List UInt8} (absent : find modeMarker input = none) :
    ¬ ReadsModeE input := by
  intro reads
  obtain ⟨index, starts, _⟩ := reads
  rw [(find_eq_some_iff (by simp [modeMarker])).mpr starts] at absent
  cases absent

theorem parse_parsed (input : List UInt8) (previous : Iec62056_21Identification) :
    Parsed input (parseIec62056_21Identification input previous) := by
  unfold parseIec62056_21Identification
  dsimp only
  split
  · next short => exact .unframed fun framed => (framed_iff.mp framed).1 short
  · next begun =>
    split
    · next unended => exact .unframed fun framed => (framed_iff.mp framed).2 unended
    · next ended =>
      have framed := framed_iff.mpr ⟨begun, ended⟩
      have coded : input[4]? = some (input.getD 4 0) := by
        rw [List.getD_eq_getElem?_getD, List.getElem?_eq_getElem framed.sized]
        rfl
      by_cases known : ∃ baud : Baud, input.getD 4 0 = baud.digit
      · obtain ⟨baud, same⟩ := known
        rw [same] at coded ⊢
        rw [baudRateFromCode_digit]
        dsimp only
        split
        · next absent => exact .accepted baud framed coded (by simp [not_readsModeE_of_find absent])
        · next marker found =>
          have reads := readsModeE_of_find found
          split
          · next outside => exact .accepted baud framed coded (by simp [reads, outside])
          · next inside => exact .accepted baud framed coded (by simp [reads])
      · rw [baudRateFromCode_other (by simpa using known)]
        refine .badBaud framed ?_
        intro baud same
        exact known ⟨baud, Option.some.inj (coded.symm.trans same)⟩

namespace IdentificationTelegram

variable {telegram : IdentificationTelegram}

theorem text_eq (telegram : IdentificationTelegram) : ∃ first second third,
    telegram.manufacturer = [first, second, third] ∧
      telegram.text = ascii '/' :: first :: second :: third :: telegram.baud.digit ::
        (telegram.options ++ [ascii '\r', ascii '\n']) := by
  obtain ⟨manufacturer, baud, options, sized⟩ := telegram
  match manufacturer, sized with
  | [first, second, third], _ => exact ⟨first, second, third, rfl, by simp [text]⟩

theorem framed (telegram : IdentificationTelegram) : Framed telegram.text := by
  obtain ⟨first, second, third, _, same⟩ := telegram.text_eq
  rw [same]
  refine ⟨by simp, rfl, ?_⟩
  exact ⟨ascii '/' :: first :: second :: third :: telegram.baud.digit :: telegram.options, rfl⟩

theorem text_baud (telegram : IdentificationTelegram) :
    telegram.text[4]? = some telegram.baud.digit := by
  obtain ⟨first, second, third, _, same⟩ := telegram.text_eq
  rw [same]
  rfl

end IdentificationTelegram

/-- A framed string with a baud character is a telegram: the two do not overlap the end. -/
theorem exists_telegram {input : List UInt8} (framed : Framed input) {baud : Baud}
    (coded : input[4]? = some baud.digit) : ∃ telegram : IdentificationTelegram,
      telegram.text = input ∧ telegram.baud = baud := by
  obtain ⟨_, _, notReturn, notFeed⟩ := baud.digit_plain
  obtain ⟨sized, starts, front, rfl⟩ := framed
  match front with
  | [] | [_] | [_, _] => simp at sized
  | [_, _, _] => simp [notFeed.symm] at coded
  | [_, _, _, _] => simp [notReturn.symm] at coded
  | slash :: first :: second :: third :: digit :: options =>
      obtain rfl : slash = ascii '/' := by simpa using starts
      obtain rfl : digit = baud.digit := by simpa using coded
      exact ⟨⟨[first, second, third], baud, options, rfl⟩, by simp [IdentificationTelegram.text],
        rfl⟩

/-- A text that goes on with another character than the pattern ends with. -/
theorem infix_concat_iff_of_ne {pattern text : List UInt8} {last other : UInt8}
    (apart : last ≠ other) :
    pattern ++ [last] <:+: text ++ [other] ↔ pattern ++ [last] <:+: text := by
  rw [List.infix_concat_iff]
  constructor
  · intro occurs
    rcases occurs with ends | within
    · obtain ⟨front, same⟩ := ends
      rw [← List.append_assoc] at same
      have ended := (List.append_inj' same rfl).2
      exact absurd (List.singleton_inj.mp ended) apart
    · exact within
  · exact Or.inr

/-- The marker of mode E does not extend over the baud character or the end. -/
theorem modeEMarker_infix_text_iff (telegram : IdentificationTelegram) :
    modeEMarker <:+: telegram.text ↔
      modeEMarker <:+: telegram.manufacturer ++ [telegram.baud.digit] ∨
        modeEMarker <:+: telegram.options := by
  obtain ⟨first, second, third, made, same⟩ := telegram.text_eq
  obtain ⟨notMark, notW, _⟩ := telegram.baud.digit_plain
  have slash : ascii '/' ≠ ascii '\\' := by decide
  have ended : modeEMarker <:+: telegram.options ++ [ascii '\r', ascii '\n'] ↔
      modeEMarker <:+: telegram.options := by
    have parted : telegram.options ++ [ascii '\r', ascii '\n'] =
      (telegram.options ++ [ascii '\r']) ++ [ascii '\n'] := by simp
    rw [parted, modeEMarker, infix_concat_iff_of_ne (by decide), infix_concat_iff_of_ne (by decide)]
  rw [same, made, ← ended]
  simp [List.infix_cons_iff, modeEMarker, modeMarker, List.cons_prefix_cons, notMark.symm,
    notW.symm, slash.symm, or_assoc]

/-- A marker before the options is the first one. -/
theorem readsModeE_of_manufacturer {telegram : IdentificationTelegram}
    (marked : modeEMarker <:+: telegram.manufacturer ++ [telegram.baud.digit]) :
    ReadsModeE telegram.text := by
  obtain ⟨first, second, third, made, same⟩ := telegram.text_eq
  obtain ⟨notMark, notW, _⟩ := telegram.baud.digit_plain
  have slash : ascii '/' ≠ ascii '\\' := by decide
  have mixed : ascii 'W' ≠ ascii '\\' := by decide
  have outside (rest : List UInt8) : ¬ modeMarker <+: ascii '/' :: rest := by
    simp [modeMarker, List.cons_prefix_cons, slash.symm]
  rw [made] at marked
  have places : ascii '\\' = first ∧ ascii 'W' = second ∧ ascii '2' = third ∨
      ascii '\\' = second ∧ ascii 'W' = third ∧ ascii '2' = telegram.baud.digit := by
    simpa [List.infix_cons_iff, modeEMarker, modeMarker, List.cons_prefix_cons, notMark.symm,
      notW.symm] using marked
  rw [same]
  rcases places with ⟨rfl, rfl, rfl⟩ | ⟨rfl, rfl, two⟩
  · refine ⟨1, firstAt_succ_iff.mpr ⟨outside _, ?_⟩, ?_⟩
    · exact firstAt_zero_iff.mpr ⟨_, rfl⟩
    · exact ⟨_, rfl⟩
  · refine ⟨2, firstAt_succ_iff.mpr ⟨outside _, firstAt_succ_iff.mpr ⟨?_, ?_⟩⟩, ?_⟩
    · simp [modeMarker, List.cons_prefix_cons, mixed]
    · exact firstAt_zero_iff.mpr ⟨_, rfl⟩
    · rw [← two]
      exact ⟨_, rfl⟩

theorem marked_of_readsModeE {input : List UInt8} (reads : ReadsModeE input) :
    modeEMarker <:+: input := by
  obtain ⟨index, _, occurs⟩ := reads
  exact occurs.isInfix.trans (List.drop_suffix index input).isInfix

/-- What the parser owes to a caller who asks for mode E: it accepts the telegrams, and
answers from the identification part. -/
structure DetectsModeE (input : List UInt8) (previous : Iec62056_21Identification) : Prop where
  accepts : (parseIec62056_21Identification input previous).1 = .ok ↔
    ∃ telegram : IdentificationTelegram, telegram.text = input
  reports : ∀ telegram : IdentificationTelegram, telegram.text = input →
    (parseIec62056_21Identification input previous).2.maxBaudRate = telegram.baud.rate ∧
    (parseIec62056_21Identification input previous).2.raw = input ∧
    ((parseIec62056_21Identification input previous).2.supportsModeE = true ↔
      modeEMarker <:+: telegram.options)

/-- The first marker of the telegram speaks for its identification part. -/
structure OptionsSpeak (telegram : IdentificationTelegram) : Prop where
  /-- No other marker stands before a marker of mode E. -/
  unhidden : modeEMarker <:+: telegram.options → ∀ index, FirstAt modeMarker telegram.text index →
    modeEMarker <+: telegram.text.drop index
  /-- The manufacturer and the baud character do not make up a marker of mode E. -/
  undeceived : modeEMarker <:+: telegram.manufacturer ++ [telegram.baud.digit] →
    modeEMarker <:+: telegram.options

theorem readsModeE_iff_options {telegram : IdentificationTelegram} :
    (ReadsModeE telegram.text ↔ modeEMarker <:+: telegram.options) ↔ OptionsSpeak telegram := by
  constructor
  · intro agrees
    constructor
    · intro marked index first
      obtain ⟨found, starts, occurs⟩ := agrees.mpr marked
      rwa [first.unique starts]
    · exact fun marked => agrees.mp (readsModeE_of_manufacturer marked)
  · intro speak
    constructor
    · intro reads
      have marked := (modeEMarker_infix_text_iff telegram).mp (marked_of_readsModeE reads)
      rcases marked with front | options
      · exact speak.undeceived front
      · exact options
    · intro marked
      have within := (modeEMarker_infix_text_iff telegram).mpr (.inr marked)
      have proper : modeMarker <:+: telegram.text := (List.prefix_append _ _).isInfix.trans within
      obtain ⟨index, first⟩ := exists_firstAt (by simp [modeMarker]) proper
      exact ⟨index, first, speak.unhidden marked index first⟩

theorem IdentificationTelegram.baud_unique {telegram : IdentificationTelegram} {baud : Baud}
    (coded : telegram.text[4]? = some baud.digit) : telegram.baud = baud :=
  Baud.digit_injective (Option.some.inj (telegram.text_baud.symm.trans coded))

theorem parse_telegram (telegram : IdentificationTelegram) (previous : Iec62056_21Identification) :
    ∃ supportsModeE, parseIec62056_21Identification telegram.text previous =
      (.ok, ⟨telegram.text, supportsModeE, telegram.baud.rate⟩) ∧
        (supportsModeE = true ↔ ReadsModeE telegram.text) := by
  have parsed := parse_parsed telegram.text previous
  generalize parseIec62056_21Identification telegram.text previous = result at parsed ⊢
  cases parsed with
  | unframed unframed => exact absurd telegram.framed unframed
  | badBaud _ bad => exact absurd telegram.text_baud (bad telegram.baud)
  | accepted baud _ coded reads =>
      rw [← telegram.baud_unique coded] at *
      exact ⟨_, rfl, reads⟩

theorem parse_ok_iff (input : List UInt8) (previous : Iec62056_21Identification) :
    (parseIec62056_21Identification input previous).1 = .ok ↔
      ∃ telegram : IdentificationTelegram, telegram.text = input := by
  constructor
  · intro accepted
    have parsed := parse_parsed input previous
    generalize parseIec62056_21Identification input previous = result at parsed accepted
    cases parsed with
    | unframed | badBaud => cases accepted
    | accepted baud framed coded =>
        obtain ⟨telegram, same, _⟩ := exists_telegram framed coded
        exact ⟨telegram, same⟩
  · intro shaped
    obtain ⟨telegram, rfl⟩ := shaped
    obtain ⟨_, parsed, _⟩ := parse_telegram telegram previous
    rw [parsed]

theorem detectsModeE_iff (input : List UInt8) (previous : Iec62056_21Identification) :
    DetectsModeE input previous ↔
      ∀ telegram : IdentificationTelegram, telegram.text = input → OptionsSpeak telegram := by
  constructor
  · intro detects telegram same
    obtain ⟨_, _, reports⟩ := detects.reports telegram same
    subst same
    obtain ⟨supportsModeE, parsed, reads⟩ := parse_telegram telegram previous
    rw [parsed] at reports
    exact readsModeE_iff_options.mp (reads.symm.trans reports)
  · intro speaks
    refine ⟨parse_ok_iff input previous, ?_⟩
    intro telegram same
    have speak := readsModeE_iff_options.mpr (speaks telegram same)
    subst same
    obtain ⟨supportsModeE, parsed, reads⟩ := parse_telegram telegram previous
    rw [parsed]
    exact ⟨rfl, rfl, reads.trans speak⟩

/-- The options hold a marker of mode E behind another one. -/
def hiddenMarker : List UInt8 :=
  [ '/', 'A', 'B', 'C', '5', 'M', 'E', 'T', 'E', 'R', '\\', 'W', '1', '\\', 'W', '2', '\r',
    '\n'].map ascii

theorem detectsModeE_hiddenMarker : ¬ DetectsModeE hiddenMarker .new := by
  intro detects
  have reports := detects.reports
    ⟨[ 'A', 'B', 'C'].map ascii, 5,
      [ 'M', 'E', 'T', 'E', 'R', '\\', 'W', '1', '\\', 'W', '2'].map ascii, rfl⟩ rfl
  exact absurd (reports.2.2.mpr (by decide)) (by decide)

/-- A refused string leaves nothing in the argument. -/
def LeavesNoTrace (input : List UInt8) (previous : Iec62056_21Identification) : Prop :=
  (parseIec62056_21Identification input previous).1 ≠ .ok →
    (parseIec62056_21Identification input previous).2 = .new

/-- A string that only the check of its baud character refuses. -/
def BadBaudCharacter (input : List UInt8) : Prop :=
  Framed input ∧ ∀ baud : Baud, input[4]? ≠ some baud.digit

theorem leavesNoTrace_iff (input : List UInt8) (previous : Iec62056_21Identification) :
    LeavesNoTrace input previous ↔ ¬ BadBaudCharacter input := by
  have parsed := parse_parsed input previous
  unfold LeavesNoTrace BadBaudCharacter
  generalize parseIec62056_21Identification input previous = result at parsed ⊢
  cases parsed with
  | unframed unframed => simp [unframed]
  | accepted baud framed coded =>
      have known : ¬ ∀ baud : Baud, input[4]? ≠ some baud.digit := fun bad => bad baud coded
      simp [known]
  | badBaud framed bad =>
      have kept : { Iec62056_21Identification.new with raw := input } ≠ .new := by
        intro same
        have empty : input = [] := congrArg Iec62056_21Identification.raw same
        simpa [empty] using framed.sized
      simp [framed, bad, kept]

/-- A telegram but for its baud character. -/
def badTelegram : List UInt8 := [ '/', 'A', 'B', 'C', '9', '\r', '\n'].map ascii

theorem leavesNoTrace_badTelegram : ¬ LeavesNoTrace badTelegram .new := by
  intro traceless
  exact absurd (traceless (by decide)) (by decide)

/-- What meter and host settle on, given the telegram and what was parsed of it. -/
structure Negotiated (input : List UInt8) (identification : Iec62056_21Identification)
    (requested : Iec62056_21BaudRate) : Prop where
  answered : ∀ before,
    (selectIec62056_21ModeEBaudRate identification requested before).1 = .ok ↔
      identification.supportsModeE = true ∧ isKnownBaudRate requested = true
  /-- The same of the telegram's own text. -/
  answeredText : ∀ before,
    (selectIec62056_21ModeEBaudRate identification requested before).1 = .ok ↔
      ReadsModeE input ∧ isKnownBaudRate requested = true
  refused : ∀ before,
    (selectIec62056_21ModeEBaudRate identification requested before).1 ≠ .ok →
      selectIec62056_21ModeEBaudRate identification requested before =
        (.unsupportedFeature, .baud300)
  agreed : ∀ before selected,
    selectIec62056_21ModeEBaudRate identification requested before = (.ok, selected) →
    ∃ offered, input[4]? = some offered ∧
      (∀ output, buildIec62056_21ModeEAck selected output =
        (.ok, [0x06, ascii '2', min offered (iec62056_21BaudRateCode requested), ascii '2',
          ascii '\r', ascii '\n'])) ∧
      iec62056_21BaudRateValue selected ≠ 0 ∧
      iec62056_21BaudRateValue selected ≤
        iec62056_21BaudRateValue identification.maxBaudRate ∧
      iec62056_21BaudRateValue selected ≤ iec62056_21BaudRateValue requested ∧
      ∀ rate, baudRateFromCode (min offered (iec62056_21BaudRateCode requested)) rate =
        (.ok, selected)

theorem select_ok_iff {identification : Iec62056_21Identification}
    {requested before : Iec62056_21BaudRate} :
    (selectIec62056_21ModeEBaudRate identification requested before).1 = .ok ↔
      identification.supportsModeE = true ∧ isKnownBaudRate requested = true := by
  unfold selectIec62056_21ModeEBaudRate
  split
  · next refused => cases refused with | inl no => simp [no] | inr no => simp [no]
  · next passed => simpa using passed

theorem select_refused {identification : Iec62056_21Identification}
    {requested before : Iec62056_21BaudRate}
    (refused : (selectIec62056_21ModeEBaudRate identification requested before).1 ≠ .ok) :
    selectIec62056_21ModeEBaudRate identification requested before =
      (.unsupportedFeature, .baud300) := by
  unfold selectIec62056_21ModeEBaudRate at refused ⊢
  split at refused
  · next failing => rw [if_pos failing]
  · exact absurd rfl refused

/-- Select takes the smaller of two known rates. -/
theorem select_rate {identification : Iec62056_21Identification} {offered requested : Baud}
    (supports : identification.supportsModeE = true)
    (offers : identification.maxBaudRate = offered.rate) (before : Iec62056_21BaudRate) :
    selectIec62056_21ModeEBaudRate identification requested.rate before =
      (.ok, (min offered requested).rate) := by
  rw [selectIec62056_21ModeEBaudRate, offers, if_neg (by simp [supports])]
  by_cases less : offered < requested
  · rw [if_pos ((Baud.rank_lt_iff _ _).mpr less), min_eq_left less.le]
  · rw [if_neg (mt (Baud.rank_lt_iff _ _).mp less), min_eq_right (not_lt.mp less)]

theorem modeE_negotiated {input : List UInt8} {previous : Iec62056_21Identification}
    (accepted : (parseIec62056_21Identification input previous).1 = .ok)
    (requested : Iec62056_21BaudRate) :
    Negotiated input (parseIec62056_21Identification input previous).2 requested := by
  obtain ⟨telegram, rfl⟩ := (parse_ok_iff input previous).mp accepted
  obtain ⟨supportsModeE, parsed, reads⟩ := parse_telegram telegram previous
  rw [parsed]
  refine ⟨fun before => select_ok_iff, ?_, fun before => select_refused, ?_⟩
  · intro before
    rw [select_ok_iff, reads]
  intro before selected selects
  obtain ⟨supports, known⟩ := select_ok_iff.mp (congrArg Prod.fst selects)
  obtain ⟨maximum, rfl⟩ := isKnownBaudRate_iff.mp known
  rw [select_rate supports rfl] at selects
  obtain rfl : (min telegram.baud maximum).rate = selected := congrArg Prod.snd selects
  refine ⟨telegram.baud.digit, telegram.text_baud, ?_⟩
  rw [Baud.code_rate, Baud.min_digit, Baud.value_rate, Baud.value_rate, Baud.value_rate]
  refine ⟨?_, Baud.speed_ne_zero _, Baud.speed_le (min_le_left _ _),
    Baud.speed_le (min_le_right _ _), baudRateFromCode_digit _⟩
  intro output
  simp [buildIec62056_21ModeEAck]

/-- The telegram of a meter that offers 19200 baud in mode E. -/
def meterTelegram : List UInt8 :=
  [ '/', 'A', 'B', 'C', '6', 'M', 'E', 'T', 'E', 'R', '\\', 'W', '2', '\r', '\n'].map ascii

theorem modeE_negotiated_meter :
    let identification := (parseIec62056_21Identification meterTelegram .new).2
    Negotiated meterTelegram identification .baud9600 ∧
      selectIec62056_21ModeEBaudRate identification .baud9600 .baud300 = (.ok, .baud9600) ∧
      buildIec62056_21ModeEAck .baud9600 [] =
        (.ok, [ 0x06, ascii '2', ascii '5', ascii '2', ascii '\r', ascii '\n']) :=
  ⟨modeE_negotiated (by decide) _, by decide, by decide⟩

end DlmsTransport.Transport
