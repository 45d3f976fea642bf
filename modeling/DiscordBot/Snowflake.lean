import DiscordBot.Json.Form

/-! Snowflakes: 64-bit ids that tell when and where they were made. -/

namespace DiscordBot

/-- From the high bits down: milliseconds since the epoch, five bits for the worker, five for the
process and twelve that count up. -/
structure Snowflake where
  id : UInt64
  deriving DecidableEq, Repr, Inhabited

instance : LE Snowflake := ⟨fun s t => s.id ≤ t.id⟩

namespace Snowflake

def epochMillis : UInt64 := 1420070400000

def unixMillis (s : Snowflake) : UInt64 := s.id >>> 22 + epochMillis

def timestampMillis (s : Snowflake) : Nat := s.unixMillis.toNat

def timestamp (s : Snowflake) : Time.Timestamp :=
  -- Milliseconds that no date stands for would give the beginning of 1970.
  (Time.Timestamp.ofMillis? s.unixMillis.toInt64.toInt).getD .unixEpoch

def workerId (s : Snowflake) : Nat := ((s.id &&& 0x3E0000) >>> 17).toNat

def processId (s : Snowflake) : Nat := ((s.id &&& 0x1F000) >>> 12).toNat

def increment (s : Snowflake) : Nat := (s.id &&& 0xFFF).toNat

def text (s : Snowflake) : String := toString s.id.toNat

def parse (s : String) : Except Decimal.IntegerError Snowflake :=
  (Decimal.readUnsigned 0xFFFFFFFFFFFFFFFF (Text.trimBlank s.toList)).map fun n => ⟨n.toUInt64⟩

def parse? (s : String) : Option Snowflake := (parse s).toOption

def ofJson? : Json → Option Snowflake
  | .str s => parse? s
  | .int n => if 0 ≤ n ∧ n ≤ 0xFFFFFFFFFFFFFFFF then some ⟨n.toNat.toUInt64⟩ else none
  | _ => none

instance : JsonForm Snowflake := ⟨fun s => .str s.text, ofJson?⟩

end Snowflake

end DiscordBot
