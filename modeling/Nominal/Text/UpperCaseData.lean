/-!
# Upper-case data

The simple one-to-one upper-case mappings, as ranges `first-last/step:offset`: every `step`-th
character of the range maps to the character `offset` places away.
-/

namespace Nominal.Text

/-- Ranges of characters with a simple upper-case mapping. -/
def upperCaseRows : List String :=
  ["61-7A/1:-32 B5-B5/1:743 E0-F6/1:-32 F8-FE/1:-32 FF-FF/1:121 101-12F/2:-1 131-131/1:-232",
   "133-137/2:-1 13A-148/2:-1 14B-177/2:-1 17A-17E/2:-1 17F-17F/1:-300 180-180/1:195 183-185/2:-1",
   "188-188/1:-1 18C-18C/1:-1 192-192/1:-1 195-195/1:97 199-199/1:-1 19A-19A/1:163",
   "19B-19B/1:42561 19E-19E/1:130 1A1-1A5/2:-1 1A8-1A8/1:-1 1AD-1AD/1:-1 1B0-1B0/1:-1",
   "1B4-1B6/2:-1 1B9-1B9/1:-1 1BD-1BD/1:-1 1BF-1BF/1:56 1C5-1C5/1:-1 1C6-1C6/1:-2 1C8-1C8/1:-1",
   "1C9-1C9/1:-2 1CB-1CB/1:-1 1CC-1CC/1:-2 1CE-1DC/2:-1 1DD-1DD/1:-79 1DF-1EF/2:-1 1F2-1F2/1:-1",
   "1F3-1F3/1:-2 1F5-1F5/1:-1 1F9-21F/2:-1 223-233/2:-1 23C-23C/1:-1 23F-240/1:10815 242-242/1:-1",
   "247-24F/2:-1 250-250/1:10783 251-251/1:10780 252-252/1:10782 253-253/1:-210 254-254/1:-206",
   "256-257/1:-205 259-259/1:-202 25B-25B/1:-203 25C-25C/1:42319 260-260/1:-205 261-261/1:42315",
   "263-263/1:-207 264-264/1:42343 265-265/1:42280 266-266/1:42308 268-268/1:-209 269-269/1:-211",
   "26A-26A/1:42308 26B-26B/1:10743 26C-26C/1:42305 26F-26F/1:-211 271-271/1:10749 272-272/1:-213",
   "275-275/1:-214 27D-27D/1:10727 280-280/1:-218 282-282/1:42307 283-283/1:-218 287-287/1:42282",
   "288-288/1:-218 289-289/1:-69 28A-28B/1:-217 28C-28C/1:-71 292-292/1:-219 29D-29D/1:42261",
   "29E-29E/1:42258 345-345/1:84 371-373/2:-1 377-377/1:-1 37B-37D/1:130 3AC-3AC/1:-38",
   "3AD-3AF/1:-37 3B1-3C1/1:-32 3C2-3C2/1:-31 3C3-3CB/1:-32 3CC-3CC/1:-64 3CD-3CE/1:-63",
   "3D0-3D0/1:-62 3D1-3D1/1:-57 3D5-3D5/1:-47 3D6-3D6/1:-54 3D7-3D7/1:-8 3D9-3EF/2:-1",
   "3F0-3F0/1:-86 3F1-3F1/1:-80 3F2-3F2/1:7 3F3-3F3/1:-116 3F5-3F5/1:-96 3F8-3F8/1:-1",
   "3FB-3FB/1:-1 430-44F/1:-32 450-45F/1:-80 461-481/2:-1 48B-4BF/2:-1 4C2-4CE/2:-1 4CF-4CF/1:-15",
   "4D1-52F/2:-1 561-586/1:-48 10D0-10FA/1:3008 10FD-10FF/1:3008 13F8-13FD/1:-8 1C80-1C80/1:-6254",
   "1C81-1C81/1:-6253 1C82-1C82/1:-6244 1C83-1C84/1:-6242 1C85-1C85/1:-6243 1C86-1C86/1:-6236",
   "1C87-1C87/1:-6181 1C88-1C88/1:35266 1C8A-1C8A/1:-1 1D79-1D79/1:35332 1D7D-1D7D/1:3814",
   "1D8E-1D8E/1:35384 1E01-1E95/2:-1 1E9B-1E9B/1:-59 1EA1-1EFF/2:-1 1F00-1F07/1:8 1F10-1F15/1:8",
   "1F20-1F27/1:8 1F30-1F37/1:8 1F40-1F45/1:8 1F51-1F57/2:8 1F60-1F67/1:8 1F70-1F71/1:74",
   "1F72-1F75/1:86 1F76-1F77/1:100 1F78-1F79/1:128 1F7A-1F7B/1:112 1F7C-1F7D/1:126 1F80-1F87/1:8",
   "1F90-1F97/1:8 1FA0-1FA7/1:8 1FB0-1FB1/1:8 1FB3-1FB3/1:9 1FBE-1FBE/1:-7205 1FC3-1FC3/1:9",
   "1FD0-1FD1/1:8 1FE0-1FE1/1:8 1FE5-1FE5/1:7 1FF3-1FF3/1:9 214E-214E/1:-28 2170-217F/1:-16",
   "2184-2184/1:-1 24D0-24E9/1:-26 2C30-2C5F/1:-48 2C61-2C61/1:-1 2C65-2C65/1:-10795",
   "2C66-2C66/1:-10792 2C68-2C6C/2:-1 2C73-2C73/1:-1 2C76-2C76/1:-1 2C81-2CE3/2:-1 2CEC-2CEE/2:-1",
   "2CF3-2CF3/1:-1 2D00-2D25/1:-7264 2D27-2D27/1:-7264 2D2D-2D2D/1:-7264 A641-A66D/2:-1",
   "A681-A69B/2:-1 A723-A72F/2:-1 A733-A76F/2:-1 A77A-A77C/2:-1 A77F-A787/2:-1 A78C-A78C/1:-1",
   "A791-A793/2:-1 A794-A794/1:48 A797-A7A9/2:-1 A7B5-A7C3/2:-1 A7C8-A7CA/2:-1 A7CD-A7DB/2:-1",
   "A7F6-A7F6/1:-1 AB53-AB53/1:-928 AB70-ABBF/1:-38864 FF41-FF5A/1:-32 10428-1044F/1:-40",
   "104D8-104FB/1:-40 10597-105A1/1:-39 105A3-105B1/1:-39 105B3-105B9/1:-39 105BB-105BC/1:-39",
   "10CC0-10CF2/1:-64 10D70-10D85/1:-32 118C0-118DF/1:-32 16E60-16E7F/1:-32 16EBB-16ED3/1:-27",
   "1E922-1E943/1:-34"]

end Nominal.Text
