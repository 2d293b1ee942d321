import PolyNotifier.Common.Models

/-!
# The bots that can send

A registry maps the id of a bot, which is what stands before the first colon of its token, to the
handle that sends through it. The handle is modelled by the token: it is all that tells two of
them apart, and what Telegram answers is a question of the environment.
-/

namespace PolyNotifier

/-- `token.split(':').next()`; a split has always a first part. -/
def botIdOf (token : String) : String := String.ofList ((token.toList.splitOn ':').headD [])

/-- `bot_id` to the handle; a handle is its token. -/
structure BotRegistry where
  bots : DashMap String String

namespace BotRegistry

def new : BotRegistry := ⟨∅⟩

/-- A second token with the same id replaces the first. -/
def register (r : BotRegistry) (token : String) : BotRegistry :=
  ⟨r.bots.insert (botIdOf token) token⟩

def get (r : BotRegistry) (botId : String) : Option String := r.bots.lookup botId

/-- The error, if there is one; `telegram` is what the Telegram API answers the bot of a token.
    An unknown id is an error without any send. -/
def sendMessage (r : BotRegistry) (telegram : String → Option String) (botId : String) :
    Option String :=
  match r.get botId with
  | none => some ("bot '" ++ botId ++ "' not found in registry")
  | some token => telegram token

theorem get_register (r : BotRegistry) (token botId : String) :
    (r.register token).get botId = if botIdOf token = botId then some token else r.get botId := by
  unfold register get
  split
  · rename_i h
    rw [h, Finmap.lookup_insert]
  · rename_i h
    exact Finmap.lookup_insert_of_ne _ (Ne.symm h)

/-- One bot, with the id `bot`. -/
def sample : BotRegistry := new.register "bot:AA"

end BotRegistry

end PolyNotifier
