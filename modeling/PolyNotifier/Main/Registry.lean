import PolyNotifier.Lib.Text
import PolyNotifier.Notify.Registry

/-!
# The bots of the process

`TELEGRAM_BOT_TOKENS` is a list of tokens with commas between them. Each is registered under its
bot id, and the same id goes to the dispatcher of the token. Of two tokens with one id the
registry keeps the second.
-/

namespace PolyNotifier

open Lib (trim)

/-- The variable, if it is set: the parts between the commas that are not blank, trimmed. -/
def botTokens (value : Option String) : List String :=
  ((((value.getD "").toList.splitOn ',').map String.ofList).filter fun s => trim s ≠ "").map trim

namespace BotRegistry

/-- The loop of `main`. -/
def ofTokens (tokens : List String) : BotRegistry := tokens.foldl register new

theorem get_foldl_register (tokens : List String) (r : BotRegistry) (botId : String) :
    (tokens.foldl register r).get botId =
      (tokens.reverse.find? fun token => botIdOf token == botId).or (r.get botId) := by
  induction tokens generalizing r with
  | nil => rfl
  | cons token tokens ih =>
    rw [List.foldl_cons, ih, get_register, List.reverse_cons, List.find?_append, Option.or_assoc]
    congr 1
    by_cases h : botIdOf token = botId
    · rw [if_pos h, List.find?_cons_of_pos (by simpa using h)]
      rfl
    · rw [if_neg h, List.find?_cons_of_neg (by simpa using h)]
      rfl

/-- **The bot of an id is the last token with that id.** -/
theorem get_ofTokens (tokens : List String) (botId : String) :
    (ofTokens tokens).get botId = tokens.reverse.find? fun token => botIdOf token == botId := by
  have hnew : new.get botId = none := rfl
  rw [ofTokens, get_foldl_register, hnew, Option.or_none]

theorem get_ofTokens_some {tokens : List String} {botId token : String}
    (h : (ofTokens tokens).get botId = some token) : token ∈ tokens ∧ botIdOf token = botId := by
  rw [get_ofTokens] at h
  exact ⟨List.mem_reverse.mp (List.mem_of_find?_eq_some h), by simpa using List.find?_some h⟩

/-- **A bot is registered if and only if there is a token with its id.** -/
theorem get_ofTokens_isSome {tokens : List String} {botId : String} :
    ((ofTokens tokens).get botId).isSome ↔ botId ∈ tokens.map botIdOf := by
  rw [get_ofTokens, List.find?_isSome, List.mem_map]
  constructor
  · rintro ⟨token, hmem, hid⟩
    exact ⟨token, List.mem_reverse.mp hmem, by simpa using hid⟩
  · rintro ⟨token, hmem, hid⟩
    exact ⟨token, List.mem_reverse.mpr hmem, by simpa using hid⟩

end BotRegistry

/-- Two tokens, a blank part and white space around them. -/
example : botTokens (some "71:AA, 72:BB,,") = ["71:AA", "72:BB"] ∧
    (botTokens (some "71:AA, 72:BB,,")).map botIdOf = ["71", "72"] := by decide +kernel

end PolyNotifier
