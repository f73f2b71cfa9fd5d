import LineShell.Tool.Block
import LineShell.Tool.Cat
import LineShell.Tool.Cut
import LineShell.Tool.Directory
import LineShell.Tool.Echo
import LineShell.Tool.Env
import LineShell.Tool.Expr
import LineShell.Tool.Files
import LineShell.Tool.Grep
import LineShell.Tool.Head
import LineShell.Tool.Ls
import LineShell.Tool.Mode
import LineShell.Tool.Nl
import LineShell.Tool.Paste
import LineShell.Tool.Printf
import LineShell.Tool.Seq
import LineShell.Tool.Sh
import LineShell.Tool.Small
import LineShell.Tool.Sort
import LineShell.Tool.Tac
import LineShell.Tool.Tail
import LineShell.Tool.Tee
import LineShell.Tool.Tr
import LineShell.Tool.Uniq
import LineShell.Tool.Wc

/-!
# The toolbox

The programs that come with a machine.

## Main definitions

* `Tool.all` — the tools.
* `Tool.programOf` — the program of a name.
-/

namespace LineShell.Tool

/-- The tools. -/
def all : List Tool :=
  [⟨"basename", collected basename⟩,
    ⟨"cat", direct cat⟩,
    ⟨"chmod", collected chmod⟩,
    ⟨"cp", collected cp⟩,
    ⟨"cut", collected cut⟩,
    ⟨"dirname", collected dirname⟩,
    ⟨"echo", collected echo⟩,
    ⟨"env", collected env 125⟩,
    ⟨"expr", collected expr 3⟩,
    ⟨"false", direct flop⟩,
    ⟨"grep", collected grep 2 (settled "write error")⟩,
    ⟨"head", collected head 1 namedOutput⟩,
    ⟨"ln", collected ln⟩,
    ⟨"ls", collected ls 2⟩,
    ⟨"mkdir", collected mkdir⟩,
    ⟨"mv", collected mv⟩,
    ⟨"nl", collected nl⟩,
    ⟨"paste", collected paste 1 hasty⟩,
    ⟨"printenv", collected printenv 2⟩,
    ⟨"printf", collected printf⟩,
    ⟨"pwd", collected pwd⟩,
    ⟨"readlink", collected readlink⟩,
    ⟨"rev", collected rev 1 fun o => { o with isOrdered := false }⟩,
    ⟨"rm", collected rm⟩,
    ⟨"rmdir", collected rmdir⟩,
    ⟨"seq", collected seq 1 (settled "write error")⟩,
    ⟨"sh", direct sh⟩,
    ⟨"sleep", direct sleep⟩,
    ⟨"sort", collected sort Sorter.failure Sorter.outputRules⟩,
    ⟨"tac", collected tac 1 Tac.outputRules⟩,
    ⟨"tail", collected tail 1 namedOutput⟩,
    ⟨"tee", direct tee⟩,
    ⟨"touch", collected touch⟩,
    ⟨"tr", collected tr 1 hasty⟩,
    ⟨"true", direct succeed⟩,
    ⟨"uniq", collected uniq⟩,
    ⟨"wc", collected wc 1 fun o => { o with isPrompt := true }⟩,
    ⟨"yes", direct yes⟩]

/-- The program of a name. -/
def programOf (name : Octets) : Option (Invocation → Code) :=
  (all.find? fun tool => tool.name.toList == name).map (·.run)

end LineShell.Tool
