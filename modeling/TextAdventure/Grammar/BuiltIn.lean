import TextAdventure.Grammar.Parser

/-!
The built-in grammar. No synonym of a verb is a word that another rule needs, and special phrasings
come before general ones, since the first rule that fits decides.
-/
namespace TextAdventure.Grammar

def builtInLines : List String := [
  "# Movement",
  "verb go: move walk travel proceed head",
  "verb run: dash sprint hurry",
  "verb climb: scale ascend",
  "verb enter: \"go in\" \"go into\" \"get in\"",
  "verb exit: leave \"go out\" \"get out\"",
  "",
  "# Object manipulation",
  "verb take: grab \"pick up\" acquire obtain lift",
  "verb get:",
  "verb drop: \"put down\" discard release \"let go\"",
  "verb use: apply utilize employ operate",
  "verb give: offer hand present deliver",
  "verb throw: toss hurl fling pitch",
  "verb put: place insert",
  "verb set: adjust",
  "verb remove: extract \"take out\" \"pull out\"",
  "",
  "# Examination",
  "verb look: l gaze observe view",
  "verb examine: x study investigate",
  "verb inspect: check",
  "verb scan: analyze",
  "verb search: explore hunt \"look for\"",
  "verb read: peruse",
  "",
  "# Containers and devices",
  "verb open: unseal unfasten",
  "verb close: shut seal fasten",
  "verb unlock:",
  "verb lock:",
  "verb activate: \"turn on\"",
  "verb deactivate: \"turn off\"",
  "",
  "# Communication",
  "verb talk: speak chat converse",
  "verb say:",
  "verb ask: question inquire query",
  "verb tell: inform report",
  "verb yell: shout scream holler",
  "",
  "# Physical actions",
  "verb push: shove press",
  "verb pull: drag tug yank",
  "verb turn: rotate twist spin",
  "verb touch: feel pat stroke",
  "verb hit: strike punch kick attack",
  "verb break: smash destroy shatter",
  "verb wave:",
  "verb play:",
  "verb dig:",
  "verb cast:",
  "verb salute:",
  "verb dive:",
  "verb order:",
  "verb buy: purchase",
  "verb sell:",
  "verb kiss:",
  "verb swim:",
  "",
  "# Body",
  "verb eat: consume devour taste",
  "verb drink: sip gulp swallow",
  "verb wear: \"put on\" don equip",
  "verb takeoff: \"take off\" doff unequip",
  "verb sleep: rest nap doze",
  "verb lie:",
  "verb sit:",
  "verb stand:",
  "verb wake:",
  "verb wait: pause stay",
  "",
  "# Meta",
  "verb save: \"save game\"",
  "verb load: restore \"load game\"",
  "verb quit: \"exit game\" stop q",
  "verb restart: \"start over\" \"new game\"",
  "verb inventory: i inv",
  "verb score: points",
  "verb help: ? hint clue",
  "",
  "# Directions",
  "direction north: n",
  "direction south: s",
  "direction east: e",
  "direction west: w",
  "direction northeast: ne",
  "direction northwest: nw",
  "direction southeast: se",
  "direction southwest: sw",
  "direction up: u upstairs above",
  "direction down: d downstairs below",
  "direction in: inside",
  "direction out: outside",
  "",
  "# Whole-input abbreviations",
  "abbrev l = look",
  "abbrev x = examine",
  "abbrev i = inventory",
  "abbrev n = go north",
  "abbrev s = go south",
  "abbrev e = go east",
  "abbrev w = go west",
  "abbrev ne = go northeast",
  "abbrev nw = go northwest",
  "abbrev se = go southeast",
  "abbrev sw = go southwest",
  "abbrev u = go up",
  "abbrev d = go down",
  "abbrev q = quit",
  "abbrev z = wait",
  "",
  "multiword pick up",
  "multiword put down",
  "multiword put on",
  "multiword take off",
  "multiword look at",
  "multiword look in",
  "multiword talk to",
  "multiword go to",
  "multiword get in",
  "multiword get out",
  "multiword turn on",
  "multiword turn off",
  "multiword lie down",
  "multiword sit down",
  "multiword stand up",
  "multiword wake up",
  "",
  "prepositions with to from in on at under over behind beside between into onto through across around about for off",
  "articles a an the",
  "fillers please kindly now then very really",
  "pronouns it them that this these those",
  "all all everything every",
  "",
  "error unknownVerb = I don't understand that verb.",
  "error noVerb = Please start your command with a verb.",
  "error ambiguousObject = Which \x7bobject\x7d do you mean?",
  "error objectNotFound = You don't see any \x7bobject\x7d here.",
  "error cantDoThat = You can't \x7bverb\x7d that.",
  "error needMoreInfo = What do you want to \x7bverb\x7d?",
  "error needIndirectObject = What do you want to \x7bverb\x7d the \x7bobject\x7d \x7bpreposition\x7d?",
  "",
  "# Movement",
  "pattern GO: go [to] [the] <direction>",
  "pattern RUN: run [to] [the] <direction>",
  "pattern CLIMB: climb [up/down] [the] <object>",
  "pattern ENTER: get in/inside/into [the] <vehicle>",
  "pattern ENTER: get in/inside/into",
  "pattern ENTER: enter [the] <vehicle>",
  "pattern EXIT: get out [of] [the] <vehicle>",
  "pattern EXIT: get out",
  "pattern EXIT: exit [the] <vehicle>",
  "pattern EXIT: exit",
  "pattern TAKE: get [the] <item>",
  "",
  "# Multi-word verbs before the single-word forms they start with",
  "pattern TAKE: pick up [the] <item>",
  "pattern DROP: put down [the] <item>",
  "pattern WEAR: put on [the] <clothing>",
  "pattern REMOVE: take off [the] <clothing>",
  "pattern REMOVE: take out [the] <item>",
  "pattern EXAMINE: look at [the] <object>",
  "pattern LOOK_IN: look in/inside [the] <container>",
  "pattern SEARCH: look for [the] <object>",
  "pattern ACTIVATE: turn on [the] <device>",
  "pattern DEACTIVATE: turn off [the] <device>",
  "pattern SLEEP: lie down",
  "pattern SLEEP: lie down [on] [the] <surface>",
  "pattern SIT: sit [down]",
  "pattern SIT: sit [down] [on] [the] <seat>",
  "pattern STAND: stand [up]",
  "pattern WAKE: wake [up]",
  "pattern TALK: talk to/with [the] <character>",
  "pattern ASK_ABOUT: ask [the] <character> about <topic>",
  "pattern TELL_ABOUT: tell [the] <character> about <topic>",
  "",
  "# Two-object commands",
  "pattern GIVE: give/offer/hand [the] <item> [to] <character>",
  "pattern INSERT: insert/put [the] <item> in/into [the] <container>",
  "pattern PUT_ON: put/place [the] <item> on/onto [the] <surface>",
  "pattern THROW: throw/hurl [the] <item> at [the] <target>",
  "pattern THROW: throw [the] <item>",
  "pattern UNLOCK: unlock [the] <door> with [the] <key>",
  "pattern UNLOCK: unlock [the] <door>",
  "pattern LOCK: lock [the] <door> with [the] <key>",
  "pattern LOCK: lock [the] <door>",
  "pattern USE: use [the] <item> on/with [the] <target>",
  "pattern USE: use [the] <item>",
  "pattern HIT: hit [the] <target> with [the] <weapon>",
  "pattern HIT: hit [the] <target>",
  "pattern CAST: cast [magic/spell] <spell> at/on [the] <target>",
  "pattern CAST: cast [magic/spell] <spell>",
  "pattern BUY: buy [the] <item> from [the] <vendor>",
  "pattern BUY: buy [the] <item>",
  "pattern SELL: sell [the] <item> to [the] <vendor>",
  "pattern SELL: sell [the] <item>",
  "pattern SET_CONTROL: set [the] <control> to <value>",
  "pattern WAVE_WAND: wave [the] [magic] wand [at] <target>",
  "pattern SCAN: scan [the] <object> [with] [the] [scanner]",
  "pattern PUSH_BUTTON: push/press [the] <button> [button]",
  "pattern ORDER: order <item> [from] [the] [menu]",
  "pattern INSPECT: check/inspect [the] <equipment> [for] [damage]",
  "pattern DIVE: dive [to] <depth> [feet/meters]",
  "",
  "# Single-object commands",
  "pattern TAKE: take [the] <item>",
  "pattern DROP: drop [the] <item>",
  "pattern REMOVE: takeoff [the] <clothing>",
  "pattern REMOVE: remove [the] <clothing>",
  "pattern WEAR: wear [the] <clothing>",
  "pattern EXAMINE: examine [the] <object>",
  "pattern SEARCH: search [the] <object>",
  "pattern READ: read [the] <text>",
  "pattern OPEN: open [the] <object>",
  "pattern CLOSE: close [the] <object>",
  "pattern PULL: pull [the] <object>",
  "pattern TURN: turn [the] <object>",
  "pattern TOUCH: touch [the] <object>",
  "pattern BREAK: break [the] <object>",
  "pattern EAT: eat/consume [the] <food>",
  "pattern DRINK: drink [the] <beverage>",
  "pattern KISS: kiss [the] <target>",
  "pattern SALUTE: salute [the] <person>",
  "pattern SWIM: swim [to/across] [the] <destination>",
  "pattern PLAY_INSTRUMENT: play [the] lute/flute/instrument",
  "pattern DIG: dig [in] [the] [ground/dirt/sand]",
  "pattern SAY: say <message>",
  "pattern YELL: yell [at] [the] <target>",
  "pattern SLEEP: sleep [in/on] [the] <surface>",
  "",
  "# Bare verbs",
  "pattern LOOK: look [around]",
  "pattern SLEEP: sleep",
  "pattern YELL: yell",
  "pattern WAIT: wait",
  "pattern INVENTORY: inventory",
  "pattern SCORE: score",
  "pattern HELP: help",
  "pattern SAVE: save",
  "pattern LOAD: load",
  "pattern QUIT: quit",
  "pattern RESTART: restart"]

/-- The text of the built-in grammar. -/
def builtInText : Text := (builtInLines.map fun l => l.toList ++ ['\n']).flatten

/-- The built-in grammar; its text is free of faults. -/
def builtIn : Document := (parse builtInText).toOption.getD {}

end TextAdventure.Grammar
