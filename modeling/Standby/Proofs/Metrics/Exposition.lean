import Mathlib.Data.List.Basic
import Standby.Metrics

/-!
# Reading an exposition

The samples of an exposition are read line by line, each up to the brace behind its name, the
quotation mark behind its label and the end of its line. Reading gives back what was written,
one sample for each metric of each series, whatever the names of the dispatchers contain.
-/

namespace Standby.Metrics

open Decimal

/-- A sample as it stands in an exposition. -/
structure Sample where
  metric : String
  dispatcher : String
  value : String
deriving DecidableEq, Repr

/-- Read a label up to the quotation mark behind it. -/
def readLabel : List Char → Option (List Char × List Char)
  | [] => none
  | '"' :: rest => some ([], rest)
  | '\\' :: 'n' :: rest => (readLabel rest).map fun (content, behind) => ('\n' :: content, behind)
  | '\\' :: escaped :: rest =>
    (readLabel rest).map fun (content, behind) => (escaped :: content, behind)
  | character :: rest =>
    (readLabel rest).map fun (content, behind) => (character :: content, behind)

/-- What stands between the name of a metric and the label. -/
def opening : List Char := ['\x7b', 'd', 'i', 's', 'p', 'a', 't', 'c', 'h', 'e', 'r', '=', '"']

/-- What stands between the label and the value. -/
def closing : List Char := ['\x7d', ' ']

/-- A character can stand in the name of a metric. -/
def isNaming (character : Char) : Bool := character != '\x7b'

/-- Read a line. A comment and an empty line have no sample. -/
def readLine (line : List Char) : Option Sample :=
  if line.head? = some '#' then none
  else do
    let labelled ← (line.dropWhile isNaming).dropPrefix? opening
    let (dispatcher, closed) ← readLabel labelled
    let value ← closed.dropPrefix? closing
    some ⟨.ofList (line.takeWhile isNaming), .ofList dispatcher, .ofList value⟩

/-- Read all samples of an exposition. -/
def readSamples (text : String) : List Sample :=
  (text.toList.splitOn '\n').filterMap readLine

/-- The sample of a metric in a series. -/
def sampleOf (metric : Metric) (series : Series) : Sample :=
  ⟨metric.name, series.dispatcher, (Binary.ofInt (series.value metric)).sample⟩

/-- A character is read from what was written for it. -/
theorem readLabel_escapeLabel (character : Char) (rest : List Char) :
    readLabel (escapeLabel character ++ rest) =
      (readLabel rest).map fun (content, behind) => (character :: content, behind) := by
  unfold escapeLabel
  split
  case h_4 unquoted unescaped _ =>
    rw [List.singleton_append, readLabel]
    · exact unquoted
    · rintro _ rfl
      exact absurd rfl unescaped
    · rintro _ _ rfl
      exact absurd rfl unescaped
  all_goals simp [readLabel]

/-- A label is read up to the quotation mark that was written behind it. -/
theorem readLabel_write (content rest : List Char) :
    readLabel (content.flatMap escapeLabel ++ '"' :: rest) = some (content, rest) := by
  induction content with
  | nil => rfl
  | cons first content inductionHypothesis =>
    rw [List.flatMap_cons, List.append_assoc, readLabel_escapeLabel, inductionHypothesis]
    rfl

section Plain

/-- Neither a brace nor a line end. -/
def isPlain (character : Char) : Bool := character.toNat != 0x7B && character.toNat != 0x0A

/-- Plain characters are read as part of a name and of its line. -/
theorem naming_of_plain {character : Char} (plain : isPlain character = true) :
    isNaming character = true ∧ character ≠ '\n' := by
  constructor
  · refine bne_iff_ne.mpr ?_
    rintro rfl
    cases plain
  · rintro rfl
    cases plain

/-- A text of plain characters. Its characters are given, because a text is slow to take apart. -/
theorem plain_of_spelled {text : String} {characters : List Char}
    (spelled : text = .ofList characters) (plain : characters.all isPlain = true) :
    text.toList.all isPlain = true := by
  rw [spelled, String.toList_ofList]
  exact plain

/-- The name of a metric is plain. -/
theorem plain_suffix (metric : Metric) : metric.suffix.toList.all isPlain = true := by
  cases metric with
  | gauge level => cases level <;> exact plain_of_spelled rfl rfl
  | counter count => cases count <;> exact plain_of_spelled rfl rfl

/-- The help text of a metric is plain. -/
theorem plain_help (metric : Metric) : metric.help.toList.all isPlain = true := by
  cases metric with
  | gauge level => cases level <;> exact plain_of_spelled rfl rfl
  | counter count => cases count <;> exact plain_of_spelled rfl rfl

/-- The kind of a metric is plain. -/
theorem plain_kind (metric : Metric) : metric.kind.toList.all isPlain = true := by
  cases metric <;> exact plain_of_spelled rfl rfl

/-- The name of a metric is plain and begins no comment. -/
theorem plain_name (metric : Metric) :
    metric.name.toList.all isPlain = true ∧ metric.name.toList.head? = some 'r' := by
  obtain ⟨rest, spelled, plain⟩ : ∃ rest,
      "reserved_threads_" = String.ofList ('r' :: rest) ∧ ('r' :: rest).all isPlain = true :=
    ⟨_, rfl, rfl⟩
  have joined : metric.name.toList = "reserved_threads_".toList ++ metric.suffix.toList :=
    String.toList_append
  rw [joined, spelled, String.toList_ofList, List.all_append]
  exact ⟨Bool.and_eq_true_iff.mpr ⟨plain, plain_suffix metric⟩, rfl⟩

/-- Plain characters are no line end. -/
theorem newline_notMem_of_plain {text : String} (plain : text.toList.all isPlain = true) :
    '\n' ∉ text.toList := fun member =>
  (naming_of_plain (List.all_eq_true.mp plain _ member)).2 rfl

end Plain

/-- A sample consists of the name, the label and the value, and what stands between them. -/
theorem toList_sample (metric : Metric) (series : Series) :
    (sample metric series).toList =
      metric.name.toList ++ (opening ++ (series.dispatcher.toList.flatMap escapeLabel ++
        '"' :: (closing ++ (sampleOf metric series).value.toList))) := by
  simp [sample, label, opening, closing, sampleOf]

/-- A sample is read back. -/
theorem readLine_sample (metric : Metric) (series : Series) :
    readLine (sample metric series).toList = some (sampleOf metric series) := by
  obtain ⟨plain, begins⟩ := plain_name metric
  have named : ∀ character ∈ metric.name.toList, isNaming character = true := fun _ member =>
    (naming_of_plain (List.all_eq_true.mp plain _ member)).1
  have brace (rest : List Char) : (opening ++ rest).takeWhile isNaming = [] ∧
      (opening ++ rest).dropWhile isNaming = opening ++ rest := ⟨rfl, rfl⟩
  rw [toList_sample, readLine, List.head?_append, begins, List.takeWhile_append_of_pos named,
    List.dropWhile_append_of_pos named, (brace _).1, (brace _).2,
    List.dropPrefix?_append_of_beq _ (beq_self_eq_true opening)]
  simp [readLabel_write, List.dropPrefix?_append_of_beq, sampleOf]

/-- A comment has no sample. -/
theorem readLine_comment (rest : List Char) : readLine ('#' :: rest) = none := rfl

/-- The samples of one metric are read from its lines. -/
theorem readLine_family (metrics : Metrics) (metric : Metric) :
    (metrics.family metric).filterMap (fun line => readLine line.toList) =
      metrics.map (sampleOf metric) := by
  simp [family, readLine_comment, List.filterMap_map, readLine_sample]

/-- Digits, a point and a sign make no line end. -/
theorem newline_notMem_positional (decimal : Shortest) : '\n' ∉ positional decimal 0 := by
  have digit : '\n' ∉ Nat.toDigits 10 decimal.digits := fun member =>
    absurd (Nat.isDigit_of_mem_toDigits (by decide) (by decide) member) (by decide)
  have filled (count : Nat) :
      '\n' ∉ List.replicate count '0' ++ Nat.toDigits 10 decimal.digits := by
    simp [List.mem_append, digit]
  unfold positional
  split
  · simp [digit]
  · simp only [List.mem_append, List.mem_cons, not_or]
    exact ⟨fun member => filled _ (List.mem_of_mem_take member), by decide,
      fun member => filled _ (List.mem_of_mem_drop member)⟩

/-- A number is shown on one line. -/
theorem newline_notMem_value (number : Binary) : '\n' ∉ number.sample.toList := by
  cases number with
  | finite negative mantissa exponent =>
    have digits := newline_notMem_positional (.of mantissa exponent)
    cases negative <;> simp [Binary.sample, signed, digits]
  | infinite negative => cases negative <;> decide
  | notNumber => decide

/-- A line end in a label is written as something else. -/
theorem newline_notMem_escapeLabel (character : Char) : '\n' ∉ escapeLabel character := by
  unfold escapeLabel
  split
  case h_4 other => simpa using Ne.symm other
  all_goals decide

/-- A sample keeps to its line. -/
theorem newline_notMem_sample (metric : Metric) (series : Series) :
    '\n' ∉ (sample metric series).toList := by
  have name := newline_notMem_of_plain (plain_name metric).1
  rw [toList_sample]
  simp [opening, closing, sampleOf, name, newline_notMem_escapeLabel, newline_notMem_value]

/-- A line has no end before its end. -/
theorem newline_notMem_line {metrics : Metrics} {metric : Metric} {line : String}
    (written : line ∈ metrics.family metric) : '\n' ∉ line.toList := by
  have name := newline_notMem_of_plain (plain_name metric).1
  have help := newline_notMem_of_plain (plain_help metric)
  have kind := newline_notMem_of_plain (plain_kind metric)
  rcases List.mem_cons.mp written with rfl | written
  · simp [name, help]
  rcases List.mem_cons.mp written with rfl | written
  · simp [name, kind]
  obtain ⟨series, -, rfl⟩ := List.mem_map.mp written
  exact newline_notMem_sample metric series

/-- Lines are split where they end. -/
theorem splitOn_lines {lines : List String} (whole : ∀ line ∈ lines, '\n' ∉ line.toList) :
    (String.join (lines.map (· ++ "\n"))).toList.splitOn '\n' =
      lines.map String.toList ++ [[]] := by
  induction lines with
  | nil => rfl
  | cons first rest inductionHypothesis =>
    have single : first.toList.splitOn '\n' = [first.toList] := by
      refine List.splitOnP_eq_singleton fun character member => beq_eq_false_iff_ne.mpr ?_
      rintro rfl
      exact whole first List.mem_cons_self member
    have joined : (String.join ((first :: rest).map (· ++ "\n"))).toList =
        first.toList ++ '\n' :: (String.join (rest.map (· ++ "\n"))).toList := by
      simp [String.toList_join]
    have split (rest : List Char) : (first.toList ++ '\n' :: rest).splitOn '\n' =
        first.toList.splitOn '\n' ++ rest.splitOn '\n' := List.splitOnP_append_cons _ _ rfl
    rw [joined, split, single,
      inductionHypothesis fun line held => whole line (List.mem_cons_of_mem first held)]
    rfl

/-- The samples of an exposition are those of all metrics in all series. -/
theorem readSamples_exposition (metrics : Metrics) :
    readSamples metrics.exposition = Metric.all.flatMap fun metric =>
      metrics.map (sampleOf metric) := by
  have whole : ∀ line ∈ metrics.expositionLines, '\n' ∉ line.toList := by
    intro line written
    obtain ⟨metric, -, written⟩ := List.mem_flatMap.mp written
    exact newline_notMem_line written
  rw [readSamples, exposition, splitOn_lines whole, List.filterMap_append, List.filterMap_map,
    expositionLines, List.filterMap_flatMap, exposed]
  split
  · rename_i empty
    obtain rfl := List.isEmpty_iff.mp empty
    rfl
  · simp only [Function.comp_def, readLine_family]
    exact List.append_nil _

example : readSamples "# TYPE a gauge\na\x7bdispatcher=\"b\\\"c\"\x7d 3\n" =
    [⟨"a", "b\"c", "3"⟩] := by decide +kernel

end Standby.Metrics
