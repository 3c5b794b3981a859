import EtcdBackup.Unicode.CharSet

/-!
# Case folding

Characters that differ in case only fall into one class of simple case folding. A word of the
table is one class, its members between equals signs, or a range of characters, every one or
every second of it, that each share a class with the character a fixed distance further.
-/

set_option autoImplicit false
set_option relaxedAutoImplicit false

namespace EtcdBackup.Unicode

/-- The classes of simple case folding with more than one member. -/
def foldingClasses : String :=
  "41-4A+20 4B=6B=212A 4C-52+20 53=73=17F 54-5A+20 B5=39C=3BC C0-C4+20 C5=E5=212B C6-D6+20
  D8-DE+20 DF=1E9E FF=178 100-12E/2+1 132-136/2+1 139-147/2+1 14A-176/2+1 179-17D/2+1 180=243
  181=253 182-184/2+1 186=254 187=188 189-18A+CD 18B=18C 18E=1DD 18F=259 190=25B 191=192 193=260
  194=263 195=1F6 196=269 197=268 198=199 19A=23D 19B=A7DC 19C=26F 19D=272 19E=220 19F=275
  1A0-1A4/2+1 1A6=280 1A7=1A8 1A9=283 1AC=1AD 1AE=288 1AF=1B0 1B1-1B2+D9 1B3-1B5/2+1 1B7=292
  1B8=1B9 1BC=1BD 1BF=1F7 1C4=1C5=1C6 1C7=1C8=1C9 1CA=1CB=1CC 1CD-1DB/2+1 1DE-1EE/2+1
  1F1=1F2=1F3 1F4=1F5 1F8-21E/2+1 222-232/2+1 23A=2C65 23B=23C 23E=2C66 23F-240+2A3F 241=242
  244=289 245=28C 246-24E/2+1 250=2C6F 251=2C6D 252=2C70 25C=A7AB 261=A7AC 264=A7CB 265=A78D
  266=A7AA 26A=A7AE 26B=2C62 26C=A7AD 271=2C6E 27D=2C64 282=A7C5 287=A7B1 29D=A7B2 29E=A7B0
  345=399=3B9=1FBE 370-372/2+1 376=377 37B-37D+82 37F=3F3 386=3AC 388-38A+25 38C=3CC 38E-38F+3F
  390=1FD3 391=3B1 392=3B2=3D0 393-394+20 395=3B5=3F5 396-397+20 398=3B8=3D1=3F4 39A=3BA=3F0
  39B-39D/2+20 39E-39F+20 3A0=3C0=3D6 3A1=3C1=3F1 3A3=3C2=3C3 3A4-3A5+20 3A6=3C6=3D5 3A7-3A8+20
  3A9=3C9=2126 3AA-3AB+20 3B0=1FE3 3CF=3D7 3D8-3EE/2+1 3F2=3F9 3F7=3F8 3FA=3FB 400-40F+50
  410-411+20 412=432=1C80 413=433 414=434=1C81 415-41D+20 41E=43E=1C82 41F-420+20 421=441=1C83
  422=442=1C84=1C85 423-429+20 42A=44A=1C86 42B-42F+20 460=461 462=463=1C87 464-480/2+1
  48A-4BE/2+1 4C0=4CF 4C1-4CD/2+1 4D0-52E/2+1 531-556+30 10A0-10C5+1C60 10C7=2D27 10CD=2D2D
  10D0-10FA+BC0 10FD-10FF+BC0 13A0-13EF+97D0 13F0-13F5+8 1C88=A64A=A64B 1C89=1C8A 1D79=A77D
  1D7D=2C63 1D8E=A7C6 1E00-1E5E/2+1 1E60=1E61=1E9B 1E62-1E94/2+1 1EA0-1EFE/2+1 1F00-1F07+8
  1F10-1F15+8 1F20-1F27+8 1F30-1F37+8 1F40-1F45+8 1F51-1F57/2+8 1F60-1F67+8 1F70-1F71+4A
  1F72-1F75+56 1F76-1F77+64 1F78-1F79+80 1F7A-1F7B+70 1F7C-1F7D+7E 1F80-1F87+8 1F90-1F97+8
  1FA0-1FA7+8 1FB0-1FB1+8 1FB3=1FBC 1FC3=1FCC 1FD0-1FD1+8 1FE0-1FE1+8 1FE5=1FEC 1FF3=1FFC
  2132=214E 2160-216F+10 2183=2184 24B6-24CF+1A 2C00-2C2F+30 2C60=2C61 2C67-2C6B/2+1 2C72=2C73
  2C75=2C76 2C80-2CE2/2+1 2CEB-2CED/2+1 2CF2=2CF3 A640-A648/2+1 A64C-A66C/2+1 A680-A69A/2+1
  A722-A72E/2+1 A732-A76E/2+1 A779-A77B/2+1 A77E-A786/2+1 A78B=A78C A790-A792/2+1 A794=A7C4
  A796-A7A8/2+1 A7B3=AB53 A7B4-A7C2/2+1 A7C7-A7C9/2+1 A7CC-A7DA/2+1 A7F5=A7F6 FB05=FB06
  FF21-FF3A+20 10400-10427+28 104B0-104D3+28 10570-1057A+27 1057C-1058A+27 1058C-10592+27
  10594-10595+27 10C80-10CB2+40 10D50-10D65+20 118A0-118BF+20 16E40-16E5F+20 16EA0-16EB8+1B
  1E900-1E921+22"

end EtcdBackup.Unicode
