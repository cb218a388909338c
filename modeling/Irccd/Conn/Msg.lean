import Irccd.CString

/-!
# Raw IRC messages (`conn.c`)

`ircConnMsgParse` cuts a line `[:prefix] command arg1 arg2 [:last-argument]` into a `ConnMsg`, as
`irc__conn_msg_parse` does. The source stores pointers into a private copy of the line; here the
strings they point to are stored.
-/

namespace Irccd

/-- `IRCCD_MESSAGE_LEN` -/
def messageLen : ℕ := 512

/-- A raw IRC message (`struct conn_msg`). The prefix is `none` where the source has NULL. The
source keeps `argsz` pointers in `args`, none of them NULL and no sentinel after them: here they
are a list of that length. -/
structure ConnMsg where
  pfx : Option CStr
  cmd : CStr
  args : List CStr
  deriving DecidableEq

namespace ConnMsg

/-- The number of arguments. -/
def argsz (msg : ConnMsg) : ℕ := msg.args.length

end ConnMsg

/-- Take the word before the next space, and what follows that space (`irc__conn_msg_scan`). -/
def ircConnMsgScan (line : CStr) : CStr × CStr :=
  (line.takeWhile (· != SP), (line.dropWhile (· != SP)).drop 1)

/-- The `while (*ptr)` loop of `irc__conn_msg_parse`. A round leaves a shorter line, so the length
of the line bounds the number of rounds (`fuel`). -/
def parseArgs : ℕ → CStr → List CStr
  | 0, _ => []
  | _ + 1, [] => []
  | fuel + 1, c :: line =>
    -- after a colon comes the last argument, spaces included
    if c = 58 then [line]
    else (ircConnMsgScan (c :: line)).1 :: parseArgs fuel (ircConnMsgScan (c :: line)).2

/-- `irc__conn_msg_parse`: the status and the message. The command is never NULL after the scan,
so the status `-EBADMSG` is never returned. -/
def ircConnMsgParse (line : List UInt8) (linesz : ℕ) : ℤ × ConnMsg :=
  let buf := strndup line linesz
  let (pfx, ptr) :=
    match buf with
    -- the line starts with a colon
    | 58 :: ptr => (some (ircConnMsgScan ptr).1, (ircConnMsgScan ptr).2)
    | ptr => (none, ptr)
  let (cmd, ptr) := ircConnMsgScan ptr
  (0, { pfx, cmd, args := parseArgs ptr.length ptr })

/-- `irc__conn_msg_is_ctcp` -/
def ircConnMsgIsCtcp (line : CStr) : Bool :=
  if line.length < 2 then false else line.head? == some 1 && line.getLast? == some 1

/-- `irc__conn_msg_ctcp`: the text of an ACTION without its `\x01` marks. -/
def ircConnMsgCtcp (line : CStr) : CStr :=
  let line := if line.head? == some 1 then line.drop 1 else line
  let line := line.takeWhile (· != 1)
  if line.take 7 = cstr "ACTION " then line.drop 7 else line

example : (ircConnMsgParse (cstr ":a!b@c KICK #x bob :bad  boy") 28).2 =
    ⟨some (cstr "a!b@c"), cstr "KICK", [cstr "#x", cstr "bob", cstr "bad  boy"]⟩ := by decide

end Irccd
