import ChatProfiles.CommandLine.Program
import ChatProfiles.Proofs.Decimal.Characters
import ChatProfiles.Proofs.Decimal.Reading
/-!
# Texts from the environment

A variable's value is read as a truth value or a number where it can be, and a setting that takes a text has it written
out again (`Becomes`).  So the bot's username and the suffix for unknown names are kept exactly if they are the written
form of what they read as (`load_variable`), and every text with a character that numbers do not have is, but for the
truth values in other letter case.  `007` is not kept (`leading_zeros_lost`); an option of the call always is.
-/
namespace ChatProfiles.Settings

open Decimal (fits64 ofInt plain readInt64? readFloat? isNumeral)

variable {t u : Text} {x : Float} {n : Int}

/-! ## From a text to its value and back -/

def truthWord (b : Bool) : Text := if b then "true".toList else "false".toList

theorem lowercase_truthWord (b : Bool) : Text.lowercase (truthWord b) = truthWord b := by cases b <;> decide +kernel

/-- A variable's text, as a setting that takes a text has it. -/
inductive Becomes (t : Text) : Text → Prop
  | truth (b : Bool) (h : Text.lowercase t = truthWord b) : Becomes t (truthWord b)
  | whole (n : Int) (h : readInt64? t = some n) : Becomes t (ofInt n)
  | float (x : Float) (hwhole : readInt64? t = none) (h : readFloat? t = some x) : Becomes t (plain x)
  | itself (htruth : ∀ b, Text.lowercase t ≠ truthWord b) (hnumber : readFloat? t = none) : Becomes t t

/-- No number is a truth value too: each of their words has a letter that numbers do not have. -/
theorem not_truth_of_readFloat? (h : readFloat? t = some x) (b : Bool) : Text.lowercase t ≠ truthWord b := fun heq => by
  have hletters : Decimal.Numeral (truthWord b) := heq ▸ (Decimal.numeral_of_readFloat? h).lowercase
  cases b with
  | true => exact absurd (hletters 'u' (by decide)) (by decide)
  | false => exact absurd (hletters 's' (by decide)) (by decide)

theorem variableValue_of_truth {b : Bool} (h : Text.lowercase t = truthWord b) : variableValue t = .bool b := by
  unfold variableValue
  rw [h]
  cases b <;> rfl

theorem variableValue_of_not_truth (h : ∀ b, Text.lowercase t ≠ truthWord b) : variableValue t =
    match readInt64? t with
    | some n => .int n
    | none =>
      match readFloat? t with
      | some x => .float x
      | none => .text t := by
  have htrue : ¬(Text.lowercase t == "true".toList) = true := fun heq => h true (beq_iff_eq.1 heq)
  have hfalse : ¬(Text.lowercase t == "false".toList) = true := fun heq => h false (beq_iff_eq.1 heq)
  unfold variableValue
  simp only [htrue, hfalse]
  rfl

theorem exists_becomes (t : Text) : ∃ u, Becomes t u := by
  by_cases htruth : ∃ b, Text.lowercase t = truthWord b
  · obtain ⟨b, hb⟩ := htruth
    exact ⟨_, .truth b hb⟩
  · cases hwhole : readInt64? t with
    | some n => exact ⟨_, .whole n hwhole⟩
    | none =>
      cases hfloat : readFloat? t with
      | some x => exact ⟨_, .float x hwhole hfloat⟩
      | none => exact ⟨_, .itself (not_exists.1 htruth) hfloat⟩

theorem Becomes.asText? (h : Becomes t u) : asText? (variableValue t) = some u := by
  cases h with
  | truth b h => rw [variableValue_of_truth h]; rfl
  | whole n h =>
    obtain ⟨x, hx⟩ := Decimal.exists_readFloat? h
    rw [variableValue_of_not_truth (not_truth_of_readFloat? hx), h]
    exact congrArg some (if_pos (Decimal.fits64_of_readInt64? h))
  | float x hwhole h => rw [variableValue_of_not_truth (not_truth_of_readFloat? h), hwhole, h]; rfl
  | itself htruth hnumber =>
    rw [variableValue_of_not_truth htruth, Decimal.readInt64?_of_readFloat? hnumber, hnumber]
    rfl

theorem Becomes.unique {v : Text} (hu : Becomes t u) (hv : Becomes t v) : u = v :=
  Option.some.inj (hu.asText?.symm.trans hv.asText?)

/-! ## What stays as it is -/

/-- The written forms of truth values and numbers, and what reads as none. -/
inductive Kept : Text → Prop
  | truth (b : Bool) : Kept (truthWord b)
  | whole (n : Int) (h : fits64 n = true) : Kept (ofInt n)
  | float {t : Text} (x : Float) (hwhole : readInt64? t = none) (h : readFloat? t = some x) (hplain : plain x = t) :
    Kept t
  | other {t : Text} (htruth : ∀ b, Text.lowercase t ≠ truthWord b) (hnumber : readFloat? t = none) : Kept t

theorem Becomes.kept (h : Becomes t u) (heq : u = t) : Kept t := by
  cases h with
  | truth b h => exact heq ▸ .truth b
  | whole n h => exact heq ▸ .whole n (Decimal.fits64_of_readInt64? h)
  | float x hwhole h => exact .float x hwhole h heq
  | itself htruth hnumber => exact .other htruth hnumber

theorem Kept.becomes (h : Kept t) : Becomes t t := by
  cases h with
  | truth b => exact .truth b (lowercase_truthWord b)
  | whole n h => exact .whole n (Decimal.readInt64?_ofInt h)
  | float x hwhole h hplain =>
    have hx : Becomes t (plain x) := .float x hwhole h
    rwa [hplain] at hx
  | other htruth hnumber => exact .itself htruth hnumber

/-- A character that no number has settles what a text is, but for the truth values. -/
theorem kept_of_not_isNumeral {c : Char} (hc : c ∈ t) (hnot : isNumeral c = false)
    (htruth : ∀ b, Text.lowercase t ≠ truthWord b) : Kept t :=
  .other htruth (Option.eq_none_iff_forall_ne_some.2 fun x hx => by
    rw [Decimal.numeral_of_readFloat? hx c hc] at hnot
    cases hnot)

/-- Signs that say nothing and exponents are lost. -/
theorem Kept.written (h : Kept t) (hx : readFloat? t = some x) : Decimal.Written t := by
  cases h with
  | truth b => exact absurd (lowercase_truthWord b) (not_truth_of_readFloat? hx b)
  | whole n h => exact Decimal.written_ofInt n
  | float y hwhole h hplain => exact hplain ▸ Decimal.written_plain y
  | other htruth hnumber =>
    rw [hnumber] at hx
    cases hx

/-! ## Loading -/

theorem load_of_none (files : Files) (env : List (Text × Text)) : load files none env =
    match ofJson? (overlay (ofEnvironment env) ({} : Settings).toJson) with
    | some s => .ok s
    | none => .error .unacceptableValue := rfl

/-- The settings of the bot that take a text. -/
inductive BotText where
  | username
  | unknownSuffix

namespace BotText

def environmentName : BotText → Text
  | username => "ROSTER_CHAT__BOT_USERNAME".toList
  | unknownSuffix => "ROSTER_CHAT__UNKNOWN_SUFFIX".toList

/-- The member of the chat's settings. -/
def key : BotText → Text
  | username => "bot_username".toList
  | unknownSuffix => "unknown_suffix".toList

/-- The standard settings, but for this one. -/
def set (t : Text) : BotText → Settings
  | username => { chat := { bot := { username := t } } }
  | unknownSuffix => { chat := { bot := { unknownSuffix := t } } }

theorem set_injective (s : BotText) (h : s.set t = s.set u) : t = u := by
  cases s with
  | username => exact congrArg (·.chat.bot.username) h
  | unknownSuffix => exact congrArg (·.chat.bot.unknownSuffix) h

theorem ofEnvironment_environmentName (s : BotText) (t : Text) :
    ofEnvironment [(s.environmentName, t)] = [("chat.".toList ++ s.key, variableValue t)] := by
  have hpath : variablePath? s.environmentName = some ("chat.".toList ++ s.key) := by cases s <;> decide +kernel
  simp only [ofEnvironment, List.filterMap_cons, hpath, List.filterMap_nil, Option.map_some]

/-- A table would be laid over member by member; any other value replaces the standard text. -/
theorem ofJson?_overlay_key (s : BotText) {j : Json} (hj : ∀ members, j ≠ .object members) :
    ofJson? (overlay [("chat.".toList ++ s.key, j)] ({} : Settings).toJson) = (asText? j).map (s.set ·) := by
  cases s <;> cases j with
  | object members => exact absurd rfl (hj members)
  | _ => rfl

theorem load_environmentName (files : Files) (s : BotText) (h : Becomes t u) :
    load files none [(s.environmentName, t)] = .ok (s.set u) := by
  have hobject : ∀ members, variableValue t ≠ .object members := fun members heq => by
    have hnone := h.asText?
    rw [heq] at hnone
    cases hnone
  rw [load_of_none, ofEnvironment_environmentName, ofJson?_overlay_key s hobject, h.asText?, Option.map_some]

end BotText

theorem load_standard (files : Files) : load files none [] = .ok {} := rfl

/-- **A variable's text is kept exactly if it is the written form of what it reads as.**  With nothing but the variable
to set it, a text of the bot is the one that the variable's becomes, and all else is standard; the username is what the
call's option for it would make it if the text is kept, and not otherwise.  A character that no number has keeps the
text, unless this is a truth value; a number is kept only if it is written without a plus and an exponent. -/
theorem load_variable (files : Files) (t : Text) :
    (∃ u, (∀ v, Becomes t v ↔ v = u) ∧ ∀ s : BotText, load files none [(s.environmentName, t)] = .ok (s.set u)) ∧
      (∀ s : BotText, load files none [(s.environmentName, t)] = .ok (s.set t) ↔ Kept t) ∧
      (load files none [(BotText.username.environmentName, t)] =
        (load files none []).map ({ botUsername := some t } : Options).over ↔ Kept t) ∧
      ((∃ c ∈ t, isNumeral c = false) → (∀ b, Text.lowercase t ≠ truthWord b) → Kept t) ∧
      (Kept t → ∀ x, readFloat? t = some x → Decimal.Written t) := by
  obtain ⟨u, hu⟩ := exists_becomes t
  have hload (s : BotText) : load files none [(s.environmentName, t)] = .ok (s.set u) := s.load_environmentName files hu
  have hkept (s : BotText) : load files none [(s.environmentName, t)] = .ok (s.set t) ↔ Kept t := by
    rw [hload, Except.ok.injEq]
    constructor
    · exact fun h => hu.kept (s.set_injective h)
    · exact fun h => congrArg s.set (hu.unique h.becomes)
  refine ⟨⟨u, fun v => ⟨fun hv => hv.unique hu, fun hv => hv ▸ hu⟩, hload⟩, hkept, ?_, ?_, fun h _ => h.written⟩
  · rw [load_standard]
    exact hkept .username
  · rintro ⟨c, hc, hnot⟩ htruth
    exact kept_of_not_isNumeral hc hnot htruth

/-- `007` is read as a whole number and written as `7`. -/
theorem leading_zeros_lost :
    load (fun _ => none) none [("ROSTER_CHAT__BOT_USERNAME".toList, "007".toList)] =
        .ok { chat := { bot := { username := "7".toList } } } ∧
      load (fun _ => none) none [("ROSTER_CHAT__BOT_USERNAME".toList, "007".toList)] ≠
        (load (fun _ => none) none []).map ({ botUsername := some "007".toList } : Options).over := by
  have hload : load (fun _ => none) none [("ROSTER_CHAT__BOT_USERNAME".toList, "007".toList)] =
      .ok (BotText.username.set "7".toList) := BotText.username.load_environmentName _ (.whole 7 rfl)
  refine ⟨hload, fun h => ?_⟩
  rw [hload, load_standard] at h
  exact absurd (BotText.username.set_injective (Except.ok.inj h)) (by decide)

end ChatProfiles.Settings
