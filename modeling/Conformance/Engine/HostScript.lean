import Conformance.Engine.Basic
import Conformance.Json.Literal

/-!
# Host scripts

An engine process is given a script: the prelude, which defines the reporting primitives and a
function that evaluates a case and prints one result line, and then one call of that function. The
case is the call's first argument, as a string literal. JSON literals are JavaScript literals but
for the line separators U+2028 and U+2029, so these two are replaced by their escapes as well.
-/

namespace Conformance.HostScript

/-- The text with `mark` in the place of every `c`. -/
def replace (c : Char) (mark text : List Char) : List Char :=
  text.flatMap fun d => if d = c then mark else [d]

/-- The literal of a text: its JSON literal, in which each separator is then replaced. -/
def literal (text : List Char) : List Char :=
  let json := Json.Literal.write text
  let unseparated := replace '\u2028' ['\\', 'u', '2', '0', '2', '8'] json
  replace '\u2029' ['\\', 'u', '2', '0', '2', '9'] unseparated

def literalOf (text : String) : String := String.ofList (literal text.toList)

/-- The lines of the prelude, which runs on every engine of the fifth edition or later. It captures
what it depends on before a case can overwrite it. -/
def preludeLines : List String :=
  [ "var __conformanceRun = (function () \x7b",
    "  var global = Function(\"return this\")();",
    "  var indirectEval = global.eval;",
    "  var stringify = JSON.stringify;",
    "  var toText = String;",
    "  var emit = typeof global.print === \"function\"",
    "    ? global.print",
    "    : Function.prototype.call.bind(global.console.log, global.console);",
    "  var builtinKinds = [",
    "    [\"TypeError\", global.TypeError],",
    "    [\"ReferenceError\", global.ReferenceError],",
    "    [\"SyntaxError\", global.SyntaxError],",
    "    [\"RangeError\", global.RangeError],",
    "    [\"EvalError\", global.EvalError],",
    "    [\"URIError\", global.URIError],",
    "    [\"Error\", global.Error]",
    "  ];",
    "  var report = null;",
    "",
    "  function Abort() \x7b\x7d",
    "",
    "  function safeText(value) \x7b",
    "    try \x7b",
    "      return toText(value);",
    "    \x7d catch (e) \x7b",
    "      return \"<unprintable value>\";",
    "    \x7d",
    "  \x7d",
    "",
    "  function kindOf(value) \x7b",
    "    if (value === null) \x7b",
    "      return \"null\";",
    "    \x7d",
    "    if (typeof value !== \"object\" && typeof value !== \"function\") \x7b",
    "      return typeof value;",
    "    \x7d",
    "    var name = \"\";",
    "    try \x7b",
    "      var ctor = value.constructor;",
    "      if (typeof ctor === \"function\" && typeof ctor.name === \"string\") \x7b",
    "        name = ctor.name;",
    "      \x7d",
    "    \x7d catch (e) \x7b\x7d",
    "    if (name !== \"\" && name !== \"Object\" && name !== \"Function\") \x7b",
    "      return name;",
    "    \x7d",
    "    for (var i = 0; i < builtinKinds.length; i++) \x7b",
    "      var builtin = builtinKinds[i][1];",
    "      if (typeof builtin === \"function\" && value instanceof builtin) \x7b",
    "        return builtinKinds[i][0];",
    "      \x7d",
    "    \x7d",
    "    return name === \"\" ? \"Object\" : name;",
    "  \x7d",
    "",
    "  function messageOf(value) \x7b",
    "    try \x7b",
    "      if (value !== null && typeof value === \"object\" && \"message\" in value) \x7b",
    "        return safeText(value.message);",
    "      \x7d",
    "    \x7d catch (e) \x7b\x7d",
    "    return safeText(value);",
    "  \x7d",
    "",
    "  function primitive(name) \x7b",
    "    return function (message) \x7b",
    "      if (report === null) \x7b",
    "        report = \x7b status: \"reported\", primitive: name, message: safeText(message) \x7d;",
    "      \x7d",
    "      throw new Abort();",
    "    \x7d;",
    "  \x7d",
    "",
    "  return function (body, strict) \x7b",
    "    global.$ERROR = primitive(\"$ERROR\");",
    "    global.$FAIL = primitive(\"$FAIL\");",
    "    global.$PRINT = function (message) \x7b emit(safeText(message)); \x7d;",
    "    var result;",
    "    try \x7b",
    "      indirectEval(strict ? \"\\\"use strict\\\";\\n\" + body : body);",
    "      result = report === null ? \x7b status: \"completed\" \x7d : report;",
    "    \x7d catch (e) \x7b",
    "      result = report !== null",
    "        ? report",
    "        : \x7b status: \"threw\", kind: kindOf(e), message: messageOf(e) \x7d;",
    "    \x7d",
    "    emit(\"@@conformance-result \" + stringify(result));",
    "  \x7d;",
    "\x7d)();" ]

def prelude : String := String.join (preludeLines.map (· ++ "\n"))

/-- The call that evaluates a program. -/
def call (p : Program) : String :=
  "__conformanceRun(" ++ literalOf p.body ++ (if p.strict then ", true);\n" else ", false);\n")

def script (p : Program) : String := prelude ++ call p

end Conformance.HostScript
