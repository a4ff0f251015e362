/-
# What is given is what is asked for

A command line is told into tokens twice: by the form of the program, which knows no switch
of a command and hands over all that is behind its word, and by the form of the command. No
argument is changed on the way. So a request is just what is given with the switches:

| switch | asks for |
| --- | --- |
| `--ssid=t` | the name `t` |
| `--open` | no key |
| `--psk=t` | the key `t` |
| `--band=t`, `--channel=t` | the number that `t` is read as |

The texts may be any but the separator, which is dropped.
-/

import Hotspot.CommandLine.Command
import Hotspot.Proofs.Config.Layout

namespace Hotspot
namespace CommandLine

variable {f : Form} {t : Text}

/-! ## Tokens keep their arguments -/

/-- A token that may be a switch keeps the argument it was made of. -/
theorem argument_of_looseToken {token : Token} (h : f.looseToken t = .ok token) :
    token.argument = t := by
  rw [Form.looseToken] at h
  split at h
  · cases h
    rfl
  · split at h <;> cases h <;> rfl
  · cases h

/-- So does every token. -/
theorem argument_of_token {token : Token} (h : f.token t = .ok token) : token.argument = t := by
  rw [Form.token.eq_def] at h
  split at h
  · rw [Form.switchToken] at h
    split at h
    · cases h
      rfl
    · split at h
      · split at h
        · cases h
          rfl
        · exact argument_of_looseToken h
      · exact argument_of_looseToken h
  · cases h
    rfl

/-- So the arguments can be told from their tokens. -/
theorem arguments_of_tokens {arguments : List Text} {tokens : List Token}
    (h : f.tokens arguments = .ok tokens) : tokens.map Token.argument = arguments := by
  induction arguments generalizing tokens with
  | nil =>
    cases h
    rfl
  | cons t rest ih =>
    rw [Form.tokens] at h
    split at h
    · next ht =>
      cases h
      have hword : Token.argument ∘ Token.word = id := rfl
      rw [List.map_cons, List.map_map, hword, List.map_id, ht]
      rfl
    · obtain ⟨token, htoken, h⟩ := bind_eq_ok.1 h
      obtain ⟨others, hothers, h⟩ := bind_eq_ok.1 h
      cases h
      rw [List.map_cons, argument_of_token htoken, ih hothers]

/-! ## The form of the program hands over -/

/-- The argument that gives a key, or says that there is none. -/
def keyArgument : Option Text → Text
  | none => "--open"
  | some key => "--psk=" ++ key

/-- The arguments that ask for a configuration. -/
def requestArguments (ssid : Text) (key : Option Text) (band channel : Text) : List Text :=
  ["--ssid=" ++ ssid, keyArgument key, "--band=" ++ band, "--channel=" ++ channel]

end CommandLine
end Hotspot
