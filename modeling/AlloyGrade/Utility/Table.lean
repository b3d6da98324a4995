import AlloyGrade.Utility.Arguments
import AlloyGrade.Utility.Awk.Run
import AlloyGrade.Utility.Blocks
import AlloyGrade.Utility.Characters
import AlloyGrade.Utility.Comparing
import AlloyGrade.Utility.Condition
import AlloyGrade.Utility.Dates
import AlloyGrade.Utility.Digests
import AlloyGrade.Utility.Editor.Run
import AlloyGrade.Utility.Expr
import AlloyGrade.Utility.Finding
import AlloyGrade.Utility.Lines
import AlloyGrade.Utility.Listing
import AlloyGrade.Utility.Naming
import AlloyGrade.Utility.Numbers
import AlloyGrade.Utility.Search
import AlloyGrade.Utility.Sorting

/-! The utilities by name. -/

namespace AlloyGrade.Utility

def table : List (String × Body) :=
  [("[", bracket), ("arch", arch), ("awk", awk), ("base64", base64), ("basename", basename), ("cat", cat), ("chmod", chmod), ("cksum", cksum),
    ("cmp", cmp), ("comm", comm), ("cp", cp), ("cut", cut), ("date", date), ("dd", dd), ("diff", diff), ("dirname", dirname), ("echo", echo),
    ("egrep", egrep), ("env", env), ("expr", expr), ("factor", factor), ("false", false_), ("fgrep", fgrep), ("find", find),
    ("fold", fold), ("grep", grep), ("groups", groups), ("head", head), ("hostname", hostname), ("id", id_), ("install", install),
    ("kill", kill), ("link", link), ("ln", ln), ("ls", ls), ("md5sum", md5sum), ("mkdir", mkdir), ("mkfifo", mkfifo),
    ("mktemp", mktemp), ("mawk", awk), ("mv", mv), ("nawk", awk), ("nice", nice), ("nl", nl), ("nohup", nohup), ("nproc", nproc), ("od", od), ("paste", paste),
    ("printenv", printenv), ("printf", printf), ("pwd", pwd), ("readlink", readlink), ("realpath", realpath), ("rev", rev), ("rm", rm),
    ("rmdir", rmdir), ("sed", sed), ("seq", seq), ("sha1sum", sha1sum), ("sha256sum", sha256sum), ("sleep", sleep), ("sort", sort),
    ("stat", stat), ("sync", sync), ("tac", tac), ("tail", tail), ("tee", tee), ("test", test), ("timeout", timeout), ("touch", touch),
    ("tr", tr), ("true", true_), ("truncate", truncate), ("tty", tty), ("uname", uname), ("uniq", uniq), ("unlink", unlink),
    ("wc", wc), ("which", which), ("whoami", whoami), ("xargs", xargs), ("yes", yes)]

end AlloyGrade.Utility
