import Mathlib.Data.List.Forall2
import ClassSkeleton.Error

/-
  ClassSkeleton.Proofs.ToldCauses — a failure on one line, with all its causes.

  The line begins with the text of the failure, and the causes are told in order: one that the line ends with already
  adds nothing, any other is put behind it. What the line ends with need not be the cause before: the end of a longer
  text will do, and a cause without a text is always there. Either way the line then ends with the cause and has only
  grown, so the cause keeps its place whatever is told later, and later causes end there or behind it (`causes_placed`).
  A cause that repeats the text right before it is told once (`describeChain_repeated`).

  - `every_cause_told`: any text and any causes.
-/

namespace ClassSkeleton

variable {text line longer c : String} {causes : List String} {n : Nat}

/-! ## The line grows -/

theorem describeChain_append (text : String) (before after : List String) :
    describeChain text (before ++ after) = describeChain (describeChain text before) after :=
  List.foldl_append

theorem describeChain_there (h : c.toList <:+ line.toList) (causes : List String) :
    describeChain line (c :: causes) = describeChain line causes := by
  have hthere : c.toList.isSuffixOf line.toList = true := List.isSuffixOf_iff_suffix.2 h
  simp only [describeChain, List.foldl_cons, hthere, if_true]

theorem describeChain_new (h : ¬ c.toList <:+ line.toList) (causes : List String) :
    describeChain line (c :: causes) = describeChain (line ++ ": " ++ c) causes := by
  have hnew : ¬ c.toList.isSuffixOf line.toList = true := mt List.isSuffixOf_iff_suffix.1 h
  rw [describeChain, List.foldl_cons, if_neg hnew]
  rfl

/-- Nothing is in the line but the text and some of the causes, in their order. -/
theorem describeChain_eq_intercalate (text : String) (causes : List String) :
    ∃ told, told.Sublist causes ∧ describeChain text causes = ": ".intercalate (text :: told) := by
  induction causes generalizing text with
  | nil => exact ⟨[], .slnil, String.intercalate_singleton.symm⟩
  | cons c causes ih =>
    by_cases h : c.toList <:+ text.toList
    · obtain ⟨told, hsub, hline⟩ := ih text
      exact ⟨told, hsub.cons c, (describeChain_there h causes).trans hline⟩
    · obtain ⟨told, hsub, hline⟩ := ih (text ++ ": " ++ c)
      refine ⟨c :: told, hsub.cons_cons c, ?_⟩
      rw [describeChain_new h, hline, String.intercalate_cons_append, String.intercalate_cons_cons]

theorem prefix_describeChain (line : String) (causes : List String) :
    line.toList <+: (describeChain line causes).toList := by
  obtain ⟨told, -, hline⟩ := describeChain_eq_intercalate line causes
  rw [hline]
  cases told with
  | nil => simp only [String.intercalate_singleton, List.prefix_refl]
  | cons c told =>
    rw [String.intercalate_cons_cons, String.append_assoc, String.toList_append]
    exact List.prefix_append _ _

/-! ## It ends with the cause told last -/

theorem suffix_describeChain (line c : String) : c.toList <:+ (describeChain line [c]).toList := by
  by_cases h : c.toList <:+ line.toList
  · rw [describeChain_there h]
    exact h
  · rw [describeChain_new h]
    exact ⟨(line ++ ": ").toList, (String.toList_append ..).symm⟩

theorem suffix_describeChain_of_getLast? (h : causes.getLast? = some c) (text : String) :
    c.toList <:+ (describeChain text causes).toList := by
  obtain ⟨front, rfl⟩ := List.getLast?_eq_some_iff.1 h
  rw [describeChain_append]
  exact suffix_describeChain _ c

/-- A cause changes the line unless the line ends with it. -/
theorem describeChain_concat_eq_iff :
    describeChain text (causes ++ [c]) = describeChain text causes ↔ c.toList <:+ (describeChain text causes).toList := by
  rw [describeChain_append]
  refine ⟨fun h => ?_, fun h => describeChain_there h []⟩
  rw [← h]
  exact suffix_describeChain _ c

/-- Behind a cause that the line ends with, telling goes on as if it were not there. -/
theorem describeChain_skip (h : c.toList <:+ (describeChain text causes).toList) (after : List String) :
    describeChain text (causes ++ c :: after) = describeChain text (causes ++ after) := by
  rw [describeChain_append, describeChain_append, describeChain_there h]

/-- A cause with the text that stands right before it, the text of the failure or of a cause, adds nothing. -/
theorem describeChain_repeated (h : (text :: causes).getLast? = some c) (after : List String) :
    describeChain text (causes ++ c :: after) = describeChain text (causes ++ after) := by
  refine describeChain_skip ?_ after
  cases causes with
  | nil =>
    obtain rfl : text = c := Option.some.inj h
    exact List.suffix_refl _
  | cons d causes => exact suffix_describeChain_of_getLast? (List.getLast?_cons_cons ▸ h) text

/-! ## Places -/

/-- The text is in the line, and ends behind the first `n` characters. -/
def EndsAt (line : String) (n : Nat) (text : String) : Prop := n ≤ line.length ∧ text.toList <:+ line.toList.take n

theorem endsAt_length : EndsAt line line.length text ↔ text.toList <:+ line.toList := by
  rw [EndsAt, ← String.length_toList, List.take_length]
  exact and_iff_right (Nat.le_refl _)

/-- What is put behind a line moves no place in it. -/
theorem EndsAt.of_prefix (h : EndsAt line n text) (hp : line.toList <+: longer.toList) : EndsAt longer n text := by
  obtain ⟨hn, hends⟩ := h
  have hle : line.length ≤ longer.length := by simpa only [String.length_toList] using hp.length_le
  refine ⟨Nat.le_trans hn hle, ?_⟩
  obtain ⟨more, hmore⟩ := hp
  rw [← hmore, List.take_append_of_le_length (by rwa [String.length_toList])]
  exact hends

/-- Every cause has a place in the line, and the places come in the order of the causes. -/
theorem causes_placed (text : String) (causes : List String) :
    ∃ ends, List.Forall₂ (EndsAt (describeChain text causes)) ends causes ∧ (text.length :: ends).IsChain (· ≤ ·) := by
  induction causes generalizing text with
  | nil => exact ⟨[], .nil, .singleton _⟩
  | cons c causes ih =>
    -- The place of `c` is the end of the line it leaves; the other causes are told behind that line.
    obtain ⟨ends, hplaces, hchain⟩ := ih (describeChain text [c])
    have hc : EndsAt (describeChain text [c]) (describeChain text [c]).length c :=
      endsAt_length.2 (suffix_describeChain text c)
    have hlater := hc.of_prefix (prefix_describeChain _ causes)
    have hgrown : text.length ≤ (describeChain text [c]).length := by
      simpa only [String.length_toList] using (prefix_describeChain text [c]).length_le
    have hsplit : describeChain text (c :: causes) = describeChain (describeChain text [c]) causes :=
      describeChain_append text [c] causes
    rw [hsplit]
    exact ⟨_ :: ends, .cons hlater hplaces, .cons_cons hgrown hchain⟩

/-! ## What a line tells -/

/-- The line tells the failure with this text and all of these causes. -/
structure Tells (text : String) (causes : List String) (line : String) : Prop where
  /-- It begins with the text of the failure. -/
  starts : text.toList <+: line.toList
  /-- It ends with the last cause. -/
  last : ∀ c, causes.getLast? = some c → c.toList <:+ line.toList
  /-- Each cause is in it, and ends no earlier than the causes before it and the text. -/
  places : ∃ ends, List.Forall₂ (EndsAt line) ends causes ∧ (text.length :: ends).IsChain (· ≤ ·)
  /-- Nothing else is in it. -/
  only : ∃ told, told.Sublist causes ∧ line = ": ".intercalate (text :: told)

theorem describeChain_tells (text : String) (causes : List String) : Tells text causes (describeChain text causes) where
  starts := prefix_describeChain text causes
  last _ h := suffix_describeChain_of_getLast? h text
  places := causes_placed text causes
  only := describeChain_eq_intercalate text causes

theorem LoadError.describe_tells (e : LoadError) : Tells e.message e.causes e.describe :=
  describeChain_tells _ _

theorem DecompileError.describe_tells (e : DecompileError) : Tells e.message e.causes e.describe :=
  describeChain_tells _ _

/-- A failure of the system below is told once, though both it and the archive that passes it on name it. -/
theorem LoadError.describe_archive_io (path : Path) (cause : IoError) :
    (LoadError.archive path (.io cause)).describe =
      describeChain ("failed to read archive " ++ path.text) [cause.message] := by
  have hagain : ["failed to read archive " ++ path.text, cause.message].getLast? = some cause.message := rfl
  exact describeChain_repeated hagain []

/-- Whatever the texts are: the line tells the failure and every cause. One more cause leaves the line as it is if and
only if the line ends with it, and what is told behind such a cause is told as if the cause were not there; so it is
with a cause that has the text right before it. -/
theorem every_cause_told (text : String) (causes : List String) :
    Tells text causes (describeChain text causes) ∧
    (∀ c, describeChain text (causes ++ [c]) = describeChain text causes ↔
      c.toList <:+ (describeChain text causes).toList) ∧
    (∀ c after, c.toList <:+ (describeChain text causes).toList →
      describeChain text (causes ++ c :: after) = describeChain text (causes ++ after)) ∧
    ∀ c after, (text :: causes).getLast? = some c →
      describeChain text (causes ++ c :: after) = describeChain text (causes ++ after) :=
  ⟨describeChain_tells text causes, fun _ => describeChain_concat_eq_iff, fun _ after h => describeChain_skip h after,
    fun _ after h => describeChain_repeated h after⟩

/-- A cause that is the end of the one before it adds nothing, nor does one without a text; one that was told further in
front is told again. -/
example : describeChain "not read" ["disk gone", "gone", "", "disk gone", "end", "disk gone"] =
    "not read: disk gone: end: disk gone" := by decide

end ClassSkeleton
