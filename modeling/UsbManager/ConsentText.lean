import UsbManager.Managers
import UsbManager.Lib.JsonText

/-!
# What the consent dialog shows

`GetUserAgreementByDiag` of `usb_right_manager.cpp` puts the text that it hands to the
dialog together from the names as they are.  The page of the dialog reads the two names
back out of that text.
-/

namespace UsbManager

namespace RightManager

open JsonText

/-- The `params` of `GetUserAgreementByDiag`. -/
def params (deviceName bundleName : String) : String :=
  "\x7b\"bundleName\":\"" ++ bundleName ++ "\", " ++ "\"deviceName\":\"" ++ deviceName ++ "\"\x7d"

/-- A text is an object with the two names as its only members. -/
def Shows (text deviceName bundleName : String) : Prop :=
  ∃ members, Text text.toList (.object members) ∧
    members.Perm [(Unicode.units "bundleName".toList, .string (Unicode.units bundleName.toList)),
      (Unicode.units "deviceName".toList, .string (Unicode.units deviceName.toList))]

/-- The dialog shows the pair that is asked for, and an answer adds what was shown. -/
def ConsentShown (deviceName bundleName : String) : Prop :=
  Shows (params deviceName bundleName) deviceName bundleName ∧
    ∀ (m : RightManager) (event name bundle : String),
      (m.requestRightAnswered deviceName bundleName event).2.hasRight name bundle = true →
        m.hasRight name bundle = true ∨ Shows (params deviceName bundleName) name bundle

/-- No character of a name has to be escaped. -/
def Unescaped (name : String) : Prop := ∀ c ∈ name.toList, Plain c

variable {deviceName bundleName : String}

theorem toList_params : (params deviceName bundleName).toList =
    '{' :: '"' :: ("bundleName".toList ++ '"' :: ':' :: '"' :: (bundleName.toList ++ '"' ::
      ',' :: ' ' :: '"' :: ("deviceName".toList ++ '"' :: ':' :: '"' :: (deviceName.toList ++
        ['"', '}'])))) := by
  unfold params
  simp only [String.toList_append, List.append_assoc]
  rfl

theorem plain_bundleName : ∀ c ∈ "bundleName".toList, Plain c := by simp [Plain]

theorem plain_deviceName : ∀ c ∈ "deviceName".toList, Plain c := by simp [Plain]

theorem names_differ :
    Unicode.units "bundleName".toList ≠ Unicode.units "deviceName".toList := by
  intro same
  have firsts := congrArg List.head? same
  simp [Unicode.units, Unicode.utf16] at firsts

/-! ## Names that are shown -/

/-- What stands between the two names is no end of a string but its own two characters. -/
theorem apart_between {text rest : List Char} (after : List UInt16)
    (chars : Chars (',' :: ' ' :: '"' :: text) after rest) :
    after.getLast? ≠ some 0x5C ∧ after ≠ [] := by
  have plain : ∀ c ∈ [',', ' '], Plain c := by simp [Plain]
  obtain ⟨rfl, -⟩ := (chars_plain_iff plain).mp chars
  simp [Unicode.units, Unicode.utf16]

theorem apart_brace {rest : List Char} (after : List UInt16) (chars : Chars ['}'] after rest) :
    after.getLast? ≠ some 0x5C ∧ after ≠ [] := by
  cases chars with
  | plain _ chars => exact (not_chars_nil chars).elim

/-- A string among the two members is the name of the bundle or of the device. -/
theorem mem_pair {members : List (List UInt16 × Value)} {key key₁ key₂ units units₁ units₂}
    (pair : members.Perm [(key₁, .string units₁), (key₂, .string units₂)])
    (inside : (key, Value.string units) ∈ members) :
    key = key₁ ∧ units = units₁ ∨ key = key₂ ∧ units = units₂ := by
  simpa using pair.mem_iff.mp inside

/-- The text denotes the pair only where both names stand for themselves. -/
theorem unescaped_of_shows (shown : Shows (params deviceName bundleName) deviceName bundleName) :
    Unescaped bundleName ∧ Unescaped deviceName := by
  obtain ⟨members, ⟨first, rest, spaces, denotes, -⟩, pair⟩ := shown
  -- the first member is the name of the bundle
  rw [toList_params] at spaces
  obtain rfl := spaces.eq_of_not_space (by decide)
  rcases denotes.object_inv with ⟨-, spaces⟩ | ⟨members', same, all⟩
  · cases spaces.eq_of_not_space (by decide)
  obtain rfl := Value.object.inj same
  obtain ⟨units, behind, members', rfl, chars, next⟩ := all.quoted_inv plain_bundleName
  obtain ⟨-, rfl⟩ := (mem_pair pair List.mem_cons_self).resolve_right
    fun other => names_differ other.1
  have bundlePlain := plain_of_reads_self chars apart_between
  -- so the second follows, and is the name of the device
  obtain ⟨-, rfl⟩ := (chars_plain_iff bundlePlain).mp chars
  rcases next with ⟨-, spaces⟩ | ⟨others, spaces, others'⟩
  · cases spaces.eq_of_not_space (by decide)
  obtain ⟨-, rfl⟩ := List.cons.inj (spaces.eq_of_not_space (by decide)).symm
  obtain ⟨units, behind, _, rfl, chars, -⟩ :=
    ((members_space_iff (by decide)).mp others').quoted_inv plain_deviceName
  obtain ⟨-, rfl⟩ := (mem_pair pair (List.mem_cons_of_mem _ List.mem_cons_self)).resolve_left
    fun other => names_differ other.1.symm
  exact ⟨bundlePlain, plain_of_reads_self chars apart_brace⟩

/-- Names that stand for themselves are the two members. -/
theorem shows_of_unescaped (bundlePlain : Unescaped bundleName)
    (devicePlain : Unescaped deviceName) :
    Shows (params deviceName bundleName) deviceName bundleName := by
  refine ⟨_, ⟨_, [], .done, ?_, .done⟩, .refl _⟩
  rw [toList_params]
  refine .object (.quoted_more plain_bundleName bundlePlain ?_)
  refine (members_space_iff (c := ' ') (by decide)).mpr ?_
  exact .quoted_last plain_deviceName devicePlain

/-- An answer adds the pair that is asked for or none. -/
theorem hasRight_requestRightAnswered {m : RightManager} {event name bundle : String}
    (right : (m.requestRightAnswered deviceName bundleName event).2.hasRight name bundle = true) :
    m.hasRight name bundle = true ∨ name = deviceName ∧ bundle = bundleName := by
  rcases m.requestRightAnswered_cases deviceName bundleName event with ⟨-, same⟩ | ⟨-, same⟩
  · rw [hasRight_congr same] at right
    exact (m.hasRight_addDeviceRight deviceName bundleName).mp right
  · rw [hasRight_congr same] at right
    exact .inl right

/-- The dialog shows what is granted where no character of the two names has to be escaped,
and only there. -/
theorem consentShown_iff (deviceName bundleName : String) :
    ConsentShown deviceName bundleName ↔ Unescaped bundleName ∧ Unescaped deviceName := by
  constructor
  · exact fun consent => unescaped_of_shows consent.1
  · rintro ⟨bundlePlain, devicePlain⟩
    have shown := shows_of_unescaped bundlePlain devicePlain
    refine ⟨shown, fun m event name bundle right => ?_⟩
    rcases hasRight_requestRightAnswered right with old | ⟨rfl, rfl⟩
    · exact .inl old
    · exact .inr shown

/-- A name can bring another name of a bundle, which is then the last member. -/
theorem text_forged {forged : String} (bundlePlain : Unescaped bundleName)
    (devicePlain : Unescaped deviceName) (forgedPlain : Unescaped forged) :
    Text (params (deviceName ++ "\", \"bundleName\":\"" ++ forged) bundleName).toList
      (.object [(Unicode.units "bundleName".toList, .string (Unicode.units bundleName.toList)),
        (Unicode.units "deviceName".toList, .string (Unicode.units deviceName.toList)),
        (Unicode.units "bundleName".toList, .string (Unicode.units forged.toList))]) := by
  refine ⟨_, [], .done, ?_, .done⟩
  rw [toList_params, String.toList_append, String.toList_append, List.append_assoc,
    List.append_assoc]
  refine .object (.quoted_more plain_bundleName bundlePlain ?_)
  refine (members_space_iff (c := ' ') (by decide)).mpr ?_
  refine .quoted_more plain_deviceName devicePlain ?_
  refine (members_space_iff (c := ' ') (by decide)).mpr ?_
  exact .quoted_last plain_bundleName forgedPlain

/-- A name that brings a member of its own. -/
theorem not_consentShown_forged :
    ¬ ConsentShown "1-2\", \"bundleName\":\"com.ohos.settings" "com.example.app" := by
  intro consent
  have plain := (unescaped_of_shows consent.1).2 '"' (by simp)
  exact plain.1 rfl

end RightManager

end UsbManager
