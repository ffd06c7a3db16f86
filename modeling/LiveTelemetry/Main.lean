import LiveTelemetry.Console.Live
import LiveTelemetry.Http.Wire
import Std.Async.DNS
import Std.Async.Signal
import Std.Async.TCP
import Std.Async.Timer
/-!
The command line. It reads the environment, writes lines, carries requests and keeps time; what to
say, to send and to wait for is told by the session and its loop.
-/
namespace LiveTelemetry.Console

open Std.Async Std.Net
open Http (Answer Delivery Fetched Request)

/-- A connection to one address. -/
def connect (port : UInt16) (address : IPAddr) : Async TCP.Socket.Client := do
  let socket ← TCP.Socket.Client.mk
  match address with
  | .v4 a => socket.connect (.v4 ⟨a, port⟩)
  | .v6 a => socket.connect (.v6 ⟨a, port⟩)
  return socket

/-- A connection to the first address that takes it. -/
def dial (port : UInt16) : List IPAddr → Async TCP.Socket.Client
  | [] => throw (IO.userError "no address")
  | a :: more => do
    try connect port a
    catch e => if more.isEmpty then throw e else dial port more

/-- All that comes back, up to the end of the answer or of the connection. -/
partial def receive (socket : TCP.Socket.Client) (got : List UInt8) : Async (List UInt8) := do
  if Answer.isEnded got then return got
  let next ← try socket.recv? 65536 catch _ => return got
  match next with
  | some bytes => receive socket (got ++ bytes.toList)
  | none => return got

/-- Carries a request. None is sent in secret. -/
def carry (r : Request) : Async Delivery := do
  if r.url.isSecure then return .lost
  let port := r.url.port.getD 80
  let host := ((r.url.host.map Url.Host.print).getD []).filter fun c => c ≠ '[' ∧ c ≠ ']'
  try
    let addresses ← DNS.getAddrInfo (String.ofList host) (toString port)
    let socket ← dial port.toUInt16 addresses.toList
    socket.send ⟨r.wire.toArray⟩
    return Delivery.ofWire (← receive socket [])
  catch _ => return .lost

/-- Ends when the time is up. -/
def pause (ms : Nat) : IO (AsyncTask Unit) := (sleep (Std.Time.Millisecond.Offset.ofNat ms)).toIO

/-- Carries a request in the time there is for it, unless the wait is given up. -/
def fetch (timeout : Nat) (givenUp : Task Unit) (r : Request) : IO Fetched := do
  let began ← IO.monoMsNow
  let carried ← (carry r).toIO
  let late := (← pause timeout).map fun _ => Delivery.silent
  let first ← IO.waitAny [carried, late, givenUp.map fun _ => .ok .silent]
  let delivery := match first with
    | .ok d => d
    | .error _ => .lost
  return ⟨delivery, (← IO.monoMsNow) - began⟩

/-- What a running program works with. -/
structure Desk where
  settings : Settings
  filter : Filter
  origin : Telemetry.Seal
  /-- The clock when the program began. -/
  began : Nat
  /-- Ends when the program is interrupted. -/
  interrupt : AsyncTask Int
  /-- Resolved when the program waits no longer. -/
  closing : IO.Promise Unit
  latest : IO.Ref Live

def clockNow : IO Nat := do
  return (← Std.Time.Timestamp.now).toNanosecondsSinceUnixEpoch.toInt.toNat

/-- Writes the lines that the filter shows. -/
def write (f : Filter) (lines : List Line) : IO Unit := do
  let output ← IO.getStdout
  for l in lines do
    if f.showsLine l then
      output.putStrLn (l.stamped ((Instant.ofNanos? (← clockNow)).getD Instant.epoch))
  output.flush

namespace Desk

def say (d : Desk) (remarks : List Remark) : IO Unit := write d.filter (remarks.map Line.ofRemark)

/-- Milliseconds since the program began. -/
def now (d : Desk) : IO Nat := return (← IO.monoMsNow) - d.began

/-- Writes what has happened, and keeps how things stand. -/
def keep (d : Desk) (s : Live) : IO Live := do
  write d.filter s.lines
  d.latest.set s.forget
  return s.forget

/-- A cycle with all that it takes to fetch. -/
partial def cycle (d : Desk) (start : Nat) (fetched : List Fetched) (s : Live) :
    IO (Live × Option Nat) := do
  match s.attempt (liveSetting d.origin) d.settings.intervals start fetched with
  | .ok done => return done
  | .error r =>
    let next ← fetch d.settings.requestTimeout d.closing.result! r
    d.cycle start (fetched ++ [next]) s

/-- Goes round until interrupted. -/
partial def goRound (d : Desk) (s : Live) : IO Unit := do
  if ← IO.hasFinished d.interrupt then
    let _ ← d.keep s.finish
  else
    let (s, wait) ← d.cycle (← d.now) [] s
    if ← IO.hasFinished d.closing.result! then return
    let s ← d.keep s
    if let some ms := wait then
      let _ ← IO.waitAny [← pause ms, d.interrupt.map fun _ => ()]
    d.goRound s

/-- Seconds that the loop has to end after an interrupt. -/
def patience : Nat := 10

/-- Works until interrupted. -/
def work (d : Desk) : IO Unit := do
  write d.filter ((opening d.settings).map Line.ofRemark)
  let loop ← IO.asTask (do d.goRound (← d.keep (Live.start d.settings))) .dedicated
  let _ ← IO.wait d.interrupt
  d.say [.interrupted]
  let _ ← IO.waitAny [loop, ← pause (patience * 1000)]
  let ended ← IO.hasFinished loop
  d.closing.resolve ()
  let last ← d.latest.get
  d.say [if ended then .finished last.tally else .overdue patience,
    .closed last.uplinkTally last.bufferTally]

end Desk

/-- The entries of the environment, as they stand or else as text. -/
def entries : IO (List UInt8) := do
  try return (← IO.FS.readBinFile "/proc/self/environ").toList
  catch _ =>
    let pieces ← (Filter.variableName :: Variable.all.map Variable.name).mapM fun name => do
      match ← IO.getEnv name with
      | some value => return Text.Utf8.encode (name.toList ++ '=' :: value.toList) ++ [0]
      | none => return []
    return pieces.flatten

def word (bytes : ByteArray) : UInt64 := bytes.foldl (fun w b => w * 256 + b.toUInt64) 0

/-- A run of the program; its value is the code it leaves. -/
def runProgram : IO UInt32 := do
  let block ← entries
  let filter := Filter.ofRequest ((assigned? Filter.variableName block).bind Text.Utf8.text?)
  match Settings.read (Environment.ofBlock block) with
  | .error p =>
    let refusal := refusal p
    write filter refusal.lines
    return refusal.code.toUInt32
  | .ok settings =>
    let origin : Telemetry.Seal :=
      ⟨← clockNow, word (← IO.getRandomBytes 8), word (← IO.getRandomBytes 8)⟩
    let interrupt ← (← Signal.Waiter.mk .sigint false).wait
    let latest ← IO.mkRef (Live.start settings)
    Desk.work ⟨settings, filter, origin, ← IO.monoMsNow, interrupt, ← IO.Promise.new, latest⟩
    return 0

end LiveTelemetry.Console

def main : IO UInt32 := LiveTelemetry.Console.runProgram
