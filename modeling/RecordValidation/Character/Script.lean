import RecordValidation.Character.Table

/-!
The script of every code point, by its four-letter code, and the characters
that are used in other scripts than their own.
-/

namespace RecordValidation.Script

def table : List Table.Run := Table.runs
  "41:Zyyy 1a:Latn 6:Zyyy 1a:Latn 2f:Zyyy 1:Latn f:Zyyy 1:Latn 5:Zyyy 17:Latn 1:Zyyy 1f:Latn
  1:Zyyy 1c1:Latn 27:Zyyy 5:Latn 5:Zyyy 2:Bopo 14:Zyyy 70:Zinh 4:Grek 1:Zyyy 3:Grek 2:Zzzz
  4:Grek 1:Zyyy 1:Grek 4:Zzzz 1:Grek 1:Zyyy 1:Grek 1:Zyyy 3:Grek 1:Zzzz 1:Grek 1:Zzzz 14:Grek
  1:Zzzz 3f:Grek e:Copt 10:Grek 85:Cyrl 2:Zinh a9:Cyrl 1:Zzzz 26:Armn 2:Zzzz 32:Armn 2:Zzzz
  3:Armn 1:Zzzz 37:Hebr 8:Zzzz 1b:Hebr 4:Zzzz 6:Hebr b:Zzzz 5:Arab 1:Zyyy 6:Arab 1:Zyyy
  e:Arab 1:Zyyy 3:Arab 1:Zyyy 20:Arab 1:Zyyy a:Arab b:Zinh 1a:Arab 1:Zinh 6c:Arab 1:Zyyy
  22:Arab e:Syrc 1:Zzzz 3c:Syrc 2:Zzzz 3:Syrc 30:Arab 32:Thaa e:Zzzz 3b:Nkoo 2:Zzzz 3:Nkoo
  2e:Samr 2:Zzzz f:Samr 1:Zzzz 1c:Mand 2:Zzzz 1:Mand 1:Zzzz b:Syrc 5:Zzzz 1f:Arab 1:Zzzz
  2:Arab 5:Zzzz 4b:Arab 1:Zyyy 1d:Arab 51:Deva 4:Zinh f:Deva 2:Zyyy 1a:Deva 4:Beng 1:Zzzz
  8:Beng 2:Zzzz 2:Beng 2:Zzzz 16:Beng 1:Zzzz 7:Beng 1:Zzzz 1:Beng 3:Zzzz 4:Beng 2:Zzzz 9:Beng
  2:Zzzz 2:Beng 2:Zzzz 4:Beng 8:Zzzz 1:Beng 4:Zzzz 2:Beng 1:Zzzz 5:Beng 2:Zzzz 19:Beng 2:Zzzz
  3:Guru 1:Zzzz 6:Guru 4:Zzzz 2:Guru 2:Zzzz 16:Guru 1:Zzzz 7:Guru 1:Zzzz 2:Guru 1:Zzzz 2:Guru
  1:Zzzz 2:Guru 2:Zzzz 1:Guru 1:Zzzz 5:Guru 4:Zzzz 2:Guru 2:Zzzz 3:Guru 3:Zzzz 1:Guru 7:Zzzz
  4:Guru 1:Zzzz 1:Guru 7:Zzzz 11:Guru a:Zzzz 3:Gujr 1:Zzzz 9:Gujr 1:Zzzz 3:Gujr 1:Zzzz
  16:Gujr 1:Zzzz 7:Gujr 1:Zzzz 2:Gujr 1:Zzzz 5:Gujr 2:Zzzz a:Gujr 1:Zzzz 3:Gujr 1:Zzzz 3:Gujr
  2:Zzzz 1:Gujr f:Zzzz 4:Gujr 2:Zzzz c:Gujr 7:Zzzz 7:Gujr 1:Zzzz 3:Orya 1:Zzzz 8:Orya 2:Zzzz
  2:Orya 2:Zzzz 16:Orya 1:Zzzz 7:Orya 1:Zzzz 2:Orya 1:Zzzz 5:Orya 2:Zzzz 9:Orya 2:Zzzz 2:Orya
  2:Zzzz 3:Orya 7:Zzzz 3:Orya 4:Zzzz 2:Orya 1:Zzzz 5:Orya 2:Zzzz 12:Orya a:Zzzz 2:Taml 1:Zzzz
  6:Taml 3:Zzzz 3:Taml 1:Zzzz 4:Taml 3:Zzzz 2:Taml 1:Zzzz 1:Taml 1:Zzzz 2:Taml 3:Zzzz 2:Taml
  3:Zzzz 3:Taml 3:Zzzz c:Taml 4:Zzzz 5:Taml 3:Zzzz 3:Taml 1:Zzzz 4:Taml 2:Zzzz 1:Taml 6:Zzzz
  1:Taml e:Zzzz 15:Taml 5:Zzzz d:Telu 1:Zzzz 3:Telu 1:Zzzz 17:Telu 1:Zzzz 10:Telu 2:Zzzz
  9:Telu 1:Zzzz 3:Telu 1:Zzzz 4:Telu 7:Zzzz 2:Telu 1:Zzzz 3:Telu 2:Zzzz 1:Telu 2:Zzzz 4:Telu
  2:Zzzz a:Telu 7:Zzzz 9:Telu d:Knda 1:Zzzz 3:Knda 1:Zzzz 17:Knda 1:Zzzz a:Knda 1:Zzzz 5:Knda
  2:Zzzz 9:Knda 1:Zzzz 3:Knda 1:Zzzz 4:Knda 7:Zzzz 2:Knda 6:Zzzz 2:Knda 1:Zzzz 4:Knda 2:Zzzz
  a:Knda 1:Zzzz 3:Knda c:Zzzz d:Mlym 1:Zzzz 3:Mlym 1:Zzzz 33:Mlym 1:Zzzz 3:Mlym 1:Zzzz 6:Mlym
  4:Zzzz 10:Mlym 2:Zzzz 1a:Mlym 1:Zzzz 3:Sinh 1:Zzzz 12:Sinh 3:Zzzz 18:Sinh 1:Zzzz 9:Sinh
  1:Zzzz 1:Sinh 2:Zzzz 7:Sinh 3:Zzzz 1:Sinh 4:Zzzz 6:Sinh 1:Zzzz 1:Sinh 1:Zzzz 8:Sinh 6:Zzzz
  a:Sinh 2:Zzzz 3:Sinh c:Zzzz 3a:Thai 4:Zzzz 1:Zyyy 1c:Thai 25:Zzzz 2:Laoo 1:Zzzz 1:Laoo
  1:Zzzz 5:Laoo 1:Zzzz 18:Laoo 1:Zzzz 1:Laoo 1:Zzzz 17:Laoo 2:Zzzz 5:Laoo 1:Zzzz 1:Laoo
  1:Zzzz 7:Laoo 1:Zzzz a:Laoo 2:Zzzz 4:Laoo 20:Zzzz 48:Tibt 1:Zzzz 24:Tibt 4:Zzzz 27:Tibt
  1:Zzzz 24:Tibt 1:Zzzz f:Tibt 1:Zzzz 7:Tibt 4:Zyyy 2:Tibt 25:Zzzz a0:Mymr 26:Geor 1:Zzzz
  1:Geor 5:Zzzz 1:Geor 2:Zzzz 2b:Geor 1:Zyyy 4:Geor 100:Hang 49:Ethi 1:Zzzz 4:Ethi 2:Zzzz
  7:Ethi 1:Zzzz 1:Ethi 1:Zzzz 4:Ethi 2:Zzzz 29:Ethi 1:Zzzz 4:Ethi 2:Zzzz 21:Ethi 1:Zzzz
  4:Ethi 2:Zzzz 7:Ethi 1:Zzzz 1:Ethi 1:Zzzz 4:Ethi 2:Zzzz f:Ethi 1:Zzzz 39:Ethi 1:Zzzz 4:Ethi
  2:Zzzz 43:Ethi 2:Zzzz 20:Ethi 3:Zzzz 1a:Ethi 6:Zzzz 56:Cher 2:Zzzz 6:Cher 2:Zzzz 280:Cans
  1d:Ogam 3:Zzzz 4b:Runr 3:Zyyy b:Runr 7:Zzzz 16:Tglg 9:Zzzz 1:Tglg 15:Hano 2:Zyyy 9:Zzzz
  14:Buhd c:Zzzz d:Tagb 1:Zzzz 3:Tagb 1:Zzzz 2:Tagb c:Zzzz 5e:Khmr 2:Zzzz a:Khmr 6:Zzzz
  a:Khmr 6:Zzzz 2:Mong 2:Zyyy 1:Mong 1:Zyyy 14:Mong 6:Zzzz 59:Mong 7:Zzzz 2b:Mong 5:Zzzz
  46:Cans a:Zzzz 1f:Limb 1:Zzzz c:Limb 4:Zzzz c:Limb 4:Zzzz 1:Limb 3:Zzzz c:Limb 1e:Tale
  2:Zzzz 5:Tale b:Zzzz 2c:Talu 4:Zzzz 1a:Talu 6:Zzzz b:Talu 3:Zzzz 2:Talu 20:Khmr 1c:Bugi
  2:Zzzz 2:Bugi 3f:Lana 1:Zzzz 1d:Lana 2:Zzzz b:Lana 6:Zzzz a:Lana 6:Zzzz e:Lana 2:Zzzz
  1f:Zinh 31:Zzzz 4d:Bali 1:Zzzz 32:Bali 40:Sund 34:Batk 8:Zzzz 4:Batk 38:Lepc 3:Zzzz f:Lepc
  3:Zzzz 3:Lepc 30:Olck b:Cyrl 5:Zzzz 2b:Geor 2:Zzzz 3:Geor 8:Sund 8:Zzzz 3:Zinh 1:Zyyy
  d:Zinh 1:Zyyy 7:Zinh 4:Zyyy 1:Zinh 6:Zyyy 1:Zinh 3:Zyyy 2:Zinh 1:Zyyy 5:Zzzz 26:Latn 5:Grek
  1:Cyrl 31:Latn 5:Grek 4:Latn 5:Grek d:Latn 1:Cyrl 46:Latn 1:Grek 40:Zinh 100:Latn 16:Grek
  2:Zzzz 6:Grek 2:Zzzz 26:Grek 2:Zzzz 6:Grek 2:Zzzz 8:Grek 1:Zzzz 1:Grek 1:Zzzz 1:Grek 1:Zzzz
  1:Grek 1:Zzzz 1f:Grek 2:Zzzz 35:Grek 1:Zzzz f:Grek 1:Zzzz e:Grek 2:Zzzz 6:Grek 1:Zzzz
  13:Grek 2:Zzzz 3:Grek 1:Zzzz 9:Grek 1:Zzzz c:Zyyy 2:Zinh 57:Zyyy 1:Zzzz b:Zyyy 1:Latn
  2:Zzzz b:Zyyy 1:Latn f:Zyyy 1:Zzzz d:Latn 3:Zzzz 21:Zyyy f:Zzzz 21:Zinh f:Zzzz 26:Zyyy
  1:Grek 3:Zyyy 2:Latn 6:Zyyy 1:Latn 1b:Zyyy 1:Latn 11:Zyyy 29:Latn 3:Zyyy 4:Zzzz 29a:Zyyy
  16:Zzzz b:Zyyy 15:Zzzz 3a0:Zyyy 100:Brai 274:Zyyy 2:Zzzz 20:Zyyy 1:Zzzz 69:Zyyy 60:Glag
  20:Latn 74:Copt 5:Zzzz 7:Copt 26:Geor 1:Zzzz 1:Geor 5:Zzzz 1:Geor 2:Zzzz 38:Tfng 7:Zzzz
  2:Tfng e:Zzzz 1:Tfng 17:Ethi 9:Zzzz 7:Ethi 1:Zzzz 7:Ethi 1:Zzzz 7:Ethi 1:Zzzz 7:Ethi 1:Zzzz
  7:Ethi 1:Zzzz 7:Ethi 1:Zzzz 7:Ethi 1:Zzzz 7:Ethi 1:Zzzz 20:Cyrl 5e:Zyyy 22:Zzzz 1a:Hani
  1:Zzzz 59:Hani c:Zzzz d6:Hani 1a:Zzzz 15:Zyyy 1:Hani 1:Zyyy 1:Hani 19:Zyyy 9:Hani 4:Zinh
  2:Hang 8:Zyyy 4:Hani 4:Zyyy 1:Zzzz 56:Hira 2:Zzzz 2:Zinh 2:Zyyy 3:Hira 1:Zyyy 5a:Kana
  2:Zyyy 3:Kana 5:Zzzz 2b:Bopo 1:Zzzz 5e:Hang 1:Zzzz 10:Zyyy 20:Bopo 26:Zyyy 9:Zzzz 1:Zyyy
  10:Kana 1f:Hang 1:Zzzz 40:Zyyy 1f:Hang 51:Zyyy 2f:Kana 1:Zyyy 58:Kana a8:Zyyy 19c0:Hani
  40:Zyyy 5200:Hani 48d:Yiii 3:Zzzz 37:Yiii 9:Zzzz 30:Lisu 12c:Vaii 14:Zzzz 60:Cyrl 58:Bamu
  8:Zzzz 22:Zyyy 66:Latn 3:Zyyy 43:Latn 2:Zzzz 2:Latn 1:Zzzz 1:Latn 1:Zzzz 8:Latn 15:Zzzz
  e:Latn 2d:Sylo 3:Zzzz a:Zyyy 6:Zzzz 38:Phag 8:Zzzz 46:Saur 8:Zzzz c:Saur 6:Zzzz 20:Deva
  2e:Kali 1:Zyyy 1:Kali 24:Rjng b:Zzzz 1:Rjng 1d:Hang 3:Zzzz 4e:Java 1:Zzzz 1:Zyyy a:Java
  4:Zzzz 2:Java 1f:Mymr 1:Zzzz 37:Cham 9:Zzzz e:Cham 2:Zzzz a:Cham 2:Zzzz 4:Cham 20:Mymr
  43:Tavt 18:Zzzz 5:Tavt 17:Mtei a:Zzzz 6:Ethi 2:Zzzz 6:Ethi 2:Zzzz 6:Ethi 9:Zzzz 7:Ethi
  1:Zzzz 7:Ethi 1:Zzzz 2b:Latn 1:Zyyy 9:Latn 1:Grek 4:Latn 2:Zyyy 4:Zzzz 50:Cher 2e:Mtei
  2:Zzzz a:Mtei 6:Zzzz 2ba4:Hang c:Zzzz 17:Hang 4:Zzzz 31:Hang 2104:Zzzz 16e:Hani 2:Zzzz
  6a:Hani 26:Zzzz 7:Latn c:Zzzz 5:Armn 5:Zzzz 1a:Hebr 1:Zzzz 5:Hebr 1:Zzzz 1:Hebr 1:Zzzz
  2:Hebr 1:Zzzz 2:Hebr 1:Zzzz a:Hebr 73:Arab 10:Zzzz 16b:Arab 2:Zyyy 50:Arab 2:Zzzz 36:Arab
  7:Zzzz 1:Arab 20:Zzzz 10:Arab 10:Zinh a:Zyyy 6:Zzzz e:Zinh 2:Cyrl 23:Zyyy 1:Zzzz 13:Zyyy
  1:Zzzz 4:Zyyy 4:Zzzz 5:Arab 1:Zzzz 87:Arab 2:Zzzz 1:Zyyy 1:Zzzz 20:Zyyy 1a:Latn 6:Zyyy
  1a:Latn b:Zyyy a:Kana 1:Zyyy 2d:Kana 2:Zyyy 1f:Hang 3:Zzzz 6:Hang 2:Zzzz 6:Hang 2:Zzzz
  6:Hang 2:Zzzz 3:Hang 3:Zzzz 7:Zyyy 1:Zzzz 7:Zyyy a:Zzzz 5:Zyyy 2:Zzzz c:Linb 1:Zzzz 1a:Linb
  1:Zzzz 13:Linb 1:Zzzz 2:Linb 1:Zzzz f:Linb 2:Zzzz e:Linb 22:Zzzz 7b:Linb 5:Zzzz 3:Zyyy
  4:Zzzz 2d:Zyyy 3:Zzzz 9:Zyyy 4f:Grek 1:Zzzz d:Zyyy 3:Zzzz 1:Grek 2f:Zzzz 2d:Zyyy 1:Zinh
  82:Zzzz 1d:Lyci 3:Zzzz 31:Cari f:Zzzz 1:Zinh 1b:Zyyy 4:Zzzz 24:Ital 9:Zzzz 3:Ital 1b:Goth
  5:Zzzz 2b:Perm 5:Zzzz 1e:Ugar 1:Zzzz 1:Ugar 24:Xpeo 4:Zzzz e:Xpeo 2a:Zzzz 50:Dsrt 30:Shaw
  1e:Osma 2:Zzzz a:Osma 6:Zzzz 24:Osge 4:Zzzz 24:Osge 4:Zzzz 28:Elba 8:Zzzz 34:Aghb b:Zzzz
  1:Aghb b:Vith 1:Zzzz f:Vith 1:Zzzz 7:Vith 1:Zzzz 2:Vith 1:Zzzz b:Vith 1:Zzzz f:Vith 1:Zzzz
  7:Vith 1:Zzzz 2:Vith 3:Zzzz 34:Todr c:Zzzz 137:Lina 9:Zzzz 16:Lina a:Zzzz 8:Lina 18:Zzzz
  6:Latn 1:Zzzz 2a:Latn 1:Zzzz 9:Latn 45:Zzzz 6:Cprt 2:Zzzz 1:Cprt 1:Zzzz 2c:Cprt 1:Zzzz
  2:Cprt 3:Zzzz 1:Cprt 2:Zzzz 1:Cprt 16:Armi 1:Zzzz 9:Armi 20:Palm 1f:Nbat 8:Zzzz 9:Nbat
  30:Zzzz 13:Hatr 1:Zzzz 2:Hatr 5:Zzzz 5:Hatr 1c:Phnx 3:Zzzz 1:Phnx 1a:Lydi 5:Zzzz 1:Lydi
  40:Zzzz 20:Mero 18:Merc 4:Zzzz 14:Merc 2:Zzzz 2e:Merc 4:Khar 1:Zzzz 2:Khar 5:Zzzz 8:Khar
  1:Zzzz 3:Khar 1:Zzzz 1d:Khar 2:Zzzz 3:Khar 4:Zzzz a:Khar 7:Zzzz 9:Khar 7:Zzzz 20:Sarb
  20:Narb 20:Zzzz 27:Mani 4:Zzzz c:Mani 9:Zzzz 36:Avst 3:Zzzz 7:Avst 16:Prti 2:Zzzz 8:Prti
  13:Phli 5:Zzzz 8:Phli 12:Phlp 7:Zzzz 4:Phlp c:Zzzz 7:Phlp 50:Zzzz 49:Orkh 37:Zzzz 33:Hung
  d:Zzzz 33:Hung 7:Zzzz 6:Hung 28:Rohg 8:Zzzz a:Rohg 6:Zzzz 26:Gara 3:Zzzz 1d:Gara 8:Zzzz
  2:Gara d0:Zzzz 1f:Arab 1:Zzzz 2a:Yezi 1:Zzzz 3:Yezi 2:Zzzz 2:Yezi 10:Zzzz 3:Arab 37:Zzzz
  4:Arab 28:Sogo 8:Zzzz 2a:Sogd 16:Zzzz 1a:Ougr 26:Zzzz 1c:Chrs 14:Zzzz 17:Elym 9:Zzzz
  4e:Brah 4:Zzzz 24:Brah 9:Zzzz 1:Brah 43:Kthi a:Zzzz 1:Kthi 2:Zzzz 19:Sora 7:Zzzz a:Sora
  6:Zzzz 35:Cakm 1:Zzzz 12:Cakm 8:Zzzz 27:Mahj 9:Zzzz 60:Shrd 1:Zzzz 14:Sinh b:Zzzz 12:Khoj
  1:Zzzz 2f:Khoj 3e:Zzzz 7:Mult 1:Zzzz 1:Mult 1:Zzzz 4:Mult 1:Zzzz f:Mult 1:Zzzz b:Mult
  6:Zzzz 3b:Sind 5:Zzzz a:Sind 6:Zzzz 4:Gran 1:Zzzz 8:Gran 2:Zzzz 2:Gran 2:Zzzz 16:Gran
  1:Zzzz 7:Gran 1:Zzzz 2:Gran 1:Zzzz 5:Gran 1:Zzzz 1:Zinh 9:Gran 2:Zzzz 2:Gran 2:Zzzz 3:Gran
  2:Zzzz 1:Gran 6:Zzzz 1:Gran 5:Zzzz 7:Gran 2:Zzzz 7:Gran 3:Zzzz 5:Gran b:Zzzz a:Tutg 1:Zzzz
  1:Tutg 2:Zzzz 1:Tutg 1:Zzzz 26:Tutg 1:Zzzz a:Tutg 1:Zzzz 1:Tutg 2:Zzzz 1:Tutg 1:Zzzz 4:Tutg
  1:Zzzz a:Tutg 1:Zzzz 2:Tutg 8:Zzzz 2:Tutg 1d:Zzzz 5c:Newa 1:Zzzz 5:Newa 1e:Zzzz 48:Tirh
  8:Zzzz a:Tirh a6:Zzzz 36:Sidd 2:Zzzz 26:Sidd 22:Zzzz 45:Modi b:Zzzz a:Modi 6:Zzzz d:Mong
  13:Zzzz 3a:Takr 6:Zzzz a:Takr 6:Zzzz 14:Mymr 1c:Zzzz 1b:Ahom 2:Zzzz f:Ahom 4:Zzzz 17:Ahom
  b9:Zzzz 3c:Dogr 64:Zzzz 53:Wara c:Zzzz 1:Wara 7:Diak 2:Zzzz 1:Diak 2:Zzzz 8:Diak 1:Zzzz
  2:Diak 1:Zzzz 1e:Diak 1:Zzzz 2:Diak 2:Zzzz c:Diak 9:Zzzz a:Diak 46:Zzzz 8:Nand 2:Zzzz
  2e:Nand 2:Zzzz b:Nand 1b:Zzzz 48:Zanb 8:Zzzz 53:Soyo d:Zzzz 10:Cans 39:Pauc 7:Zzzz a:Deva
  b6:Zzzz 22:Sunu e:Zzzz a:Sunu 6:Zzzz 9:Bhks 1:Zzzz 2d:Bhks 1:Zzzz e:Bhks a:Zzzz 1d:Bhks
  3:Zzzz 20:Marc 2:Zzzz 16:Marc 1:Zzzz e:Marc 49:Zzzz 7:Gonm 1:Zzzz 2:Gonm 1:Zzzz 2c:Gonm
  3:Zzzz 1:Gonm 1:Zzzz 2:Gonm 1:Zzzz 9:Gonm 8:Zzzz a:Gonm 6:Zzzz 6:Gong 1:Zzzz 2:Gong 1:Zzzz
  25:Gong 1:Zzzz 2:Gong 1:Zzzz 6:Gong 7:Zzzz a:Gong 136:Zzzz 19:Maka 7:Zzzz 11:Kawi 1:Zzzz
  29:Kawi 3:Zzzz 1d:Kawi 55:Zzzz 1:Lisu f:Zzzz 32:Taml d:Zzzz 1:Taml 39a:Xsux 66:Zzzz 6f:Xsux
  1:Zzzz 5:Xsux b:Zzzz c4:Xsux a4c:Zzzz 63:Cpmn d:Zzzz 456:Egyp a:Zzzz f9b:Egyp 5:Zzzz
  247:Hluw 1ab9:Zzzz 3a:Gukh 6c6:Zzzz 239:Bamu 7:Zzzz 1f:Mroo 1:Zzzz a:Mroo 4:Zzzz 2:Mroo
  4f:Tnsa 1:Zzzz a:Tnsa 6:Zzzz 1e:Bass 2:Zzzz 6:Bass a:Zzzz 46:Hmng a:Zzzz a:Hmng 1:Zzzz
  7:Hmng 1:Zzzz 15:Hmng 5:Zzzz 13:Hmng 1b0:Zzzz 3a:Krai c6:Zzzz 5b:Medf 65:Zzzz 4b:Plrd
  4:Zzzz 39:Plrd 7:Zzzz 11:Plrd 40:Zzzz 1:Tang 1:Nshu 2:Hani 1:Kits b:Zzzz 2:Hani e:Zzzz
  17f8:Tang 8:Zzzz 300:Tang 1d6:Kits 29:Zzzz 1:Kits 9:Tang 22e7:Zzzz 4:Kana 1:Zzzz 7:Kana
  1:Zzzz 2:Kana 1:Zzzz 1:Kana 11f:Hira 3:Kana f:Zzzz 1:Hira 1d:Zzzz 3:Hira 2:Zzzz 1:Kana
  e:Zzzz 4:Kana 8:Zzzz 18c:Nshu 904:Zzzz 6b:Dupl 5:Zzzz d:Dupl 3:Zzzz 9:Dupl 7:Zzzz a:Dupl
  2:Zzzz 4:Dupl 4:Zyyy f5c:Zzzz fa:Zyyy 6:Zzzz 1b4:Zyyy 4c:Zzzz 2e:Zinh 2:Zzzz 17:Zinh 9:Zzzz
  74:Zyyy 3c:Zzzz f6:Zyyy a:Zzzz 27:Zyyy 2:Zzzz 3e:Zyyy 3:Zinh 11:Zyyy 8:Zinh 2:Zyyy 7:Zinh
  1e:Zyyy 4:Zinh 3d:Zyyy 15:Zzzz 46:Grek 7a:Zzzz 14:Zyyy c:Zzzz 14:Zyyy c:Zzzz 57:Zyyy 9:Zzzz
  19:Zyyy 87:Zzzz 55:Zyyy 1:Zzzz 47:Zyyy 1:Zzzz 2:Zyyy 2:Zzzz 1:Zyyy 2:Zzzz 2:Zyyy 2:Zzzz
  4:Zyyy 1:Zzzz c:Zyyy 1:Zzzz 1:Zyyy 1:Zzzz 7:Zyyy 1:Zzzz 41:Zyyy 1:Zzzz 4:Zyyy 2:Zzzz 8:Zyyy
  1:Zzzz 7:Zyyy 1:Zzzz 1c:Zyyy 1:Zzzz 4:Zyyy 1:Zzzz 5:Zyyy 1:Zzzz 1:Zyyy 3:Zzzz 7:Zyyy 1:Zzzz
  154:Zyyy 2:Zzzz 124:Zyyy 2:Zzzz 32:Zyyy 28c:Sgnw f:Zzzz 5:Sgnw 1:Zzzz f:Sgnw 450:Zzzz
  1f:Latn 6:Zzzz 6:Latn d5:Zzzz 7:Glag 1:Zzzz 11:Glag 2:Zzzz 7:Glag 1:Zzzz 2:Glag 1:Zzzz
  5:Glag 5:Zzzz 3e:Cyrl 21:Zzzz 1:Cyrl 70:Zzzz 2d:Hmnp 3:Zzzz e:Hmnp 2:Zzzz a:Hmnp 4:Zzzz
  2:Hmnp 140:Zzzz 1f:Toto 11:Zzzz 3a:Wcho 5:Zzzz 1:Wcho 1d0:Zzzz 2a:Nagm d6:Zzzz 2b:Onao
  4:Zzzz 1:Onao 1e0:Zzzz 7:Ethi 1:Zzzz 4:Ethi 1:Zzzz 2:Ethi 1:Zzzz f:Ethi 1:Zzzz c5:Mend
  2:Zzzz 10:Mend 29:Zzzz 4c:Adlm 4:Zzzz a:Adlm 4:Zzzz 2:Adlm 311:Zzzz 44:Zyyy 4c:Zzzz 3d:Zyyy
  c2:Zzzz 4:Arab 1:Zzzz 1b:Arab 1:Zzzz 2:Arab 1:Zzzz 1:Arab 2:Zzzz 1:Arab 1:Zzzz a:Arab
  1:Zzzz 4:Arab 1:Zzzz 1:Arab 1:Zzzz 1:Arab 6:Zzzz 1:Arab 4:Zzzz 1:Arab 1:Zzzz 1:Arab 1:Zzzz
  1:Arab 1:Zzzz 3:Arab 1:Zzzz 2:Arab 1:Zzzz 1:Arab 2:Zzzz 1:Arab 1:Zzzz 1:Arab 1:Zzzz 1:Arab
  1:Zzzz 1:Arab 1:Zzzz 1:Arab 1:Zzzz 2:Arab 1:Zzzz 1:Arab 2:Zzzz 4:Arab 1:Zzzz 7:Arab 1:Zzzz
  4:Arab 1:Zzzz 4:Arab 1:Zzzz 1:Arab 1:Zzzz a:Arab 1:Zzzz 11:Arab 5:Zzzz 3:Arab 1:Zzzz 5:Arab
  1:Zzzz 11:Arab 34:Zzzz 2:Arab 10e:Zzzz 2c:Zyyy 4:Zzzz 64:Zyyy c:Zzzz f:Zyyy 2:Zzzz f:Zyyy
  1:Zzzz f:Zyyy 1:Zzzz 25:Zyyy a:Zzzz ae:Zyyy 38:Zzzz 1a:Zyyy 1:Hira 2:Zyyy d:Zzzz 2c:Zyyy
  4:Zzzz 9:Zyyy 7:Zzzz 2:Zyyy e:Zzzz 6:Zyyy 9a:Zzzz 3d8:Zyyy 4:Zzzz 11:Zyyy 3:Zzzz d:Zyyy
  3:Zzzz 77:Zyyy 4:Zzzz 5f:Zyyy 6:Zzzz c:Zyyy 4:Zzzz 1:Zyyy f:Zzzz c:Zyyy 4:Zzzz 38:Zyyy
  8:Zzzz a:Zyyy 6:Zzzz 28:Zyyy 8:Zzzz 1e:Zyyy 2:Zzzz c:Zyyy 4:Zzzz 2:Zyyy 3e:Zzzz 154:Zyyy
  c:Zzzz e:Zyyy 2:Zzzz d:Zyyy 3:Zzzz a:Zyyy 5:Zzzz 38:Zyyy 7:Zzzz f:Zyyy 2:Zzzz b:Zyyy 6:Zzzz
  9:Zyyy 7:Zzzz 93:Zyyy 1:Zzzz 66:Zyyy 406:Zzzz a6e0:Hani 20:Zzzz 103a:Hani 6:Zzzz de:Hani
  2:Zzzz 1682:Hani e:Zzzz 1d31:Hani f:Zzzz 26e:Hani 9a2:Zzzz 21e:Hani 5e2:Zzzz 134b:Hani
  5:Zzzz 1060:Hani adc51:Zzzz 1:Zyyy 1e:Zzzz 60:Zyyy 80:Zzzz f0:Zinh 2fe10:Zzzz"

/-- Characters whose scripts in use differ from the table above, with all the
scripts each is used in. -/
def extensionText : String :=
  "b7:Avst,Cari,Copt,Dupl,Elba,Geor,Glag,Gong,Goth,Grek,Hani,Latn,Lydi,Mahj,Perm,Shaw
  2bc:Beng,Cyrl,Deva,Latn,Lisu,Thai,Toto 2c7:Bopo,Latn 2c9-2cb:Bopo,Latn 2cd:Latn,Lisu
  2d7:Latn,Thai 2d9:Bopo,Latn 300:Cher,Copt,Cyrl,Grek,Latn,Perm,Sunu,Tale
  301:Cher,Cyrl,Grek,Latn,Osge,Sunu,Tale,Todr 302:Cher,Cyrl,Latn,Tfng
  303:Glag,Latn,Sunu,Syrc,Thai 304:Aghb,Cher,Copt,Cyrl,Goth,Grek,Latn,Osge,Syrc,Tfng,Todr
  305:Copt,Elba,Glag,Goth,Kana,Latn 306:Cyrl,Grek,Latn,Perm
  307:Copt,Dupl,Hebr,Latn,Perm,Syrc,Tale,Tfng,Todr
  308:Armn,Cyrl,Dupl,Goth,Grek,Hebr,Latn,Perm,Syrc,Tale 309:Latn,Tfng 30a:Dupl,Latn,Syrc
  30b:Cher,Cyrl,Latn,Osge 30c:Cher,Latn,Tale 30d:Latn,Sunu 30e:Ethi,Latn 310:Latn,Sunu
  311:Cyrl,Latn,Todr 313:Grek,Latn,Perm,Todr 320:Latn,Syrc 323:Cher,Dupl,Kana,Latn,Syrc
  324:Cher,Dupl,Latn,Syrc 325:Latn,Syrc 32d:Latn,Sunu,Syrc 32e:Latn,Syrc 330:Cher,Latn,Syrc
  331:Aghb,Cher,Goth,Latn,Sunu,Thai 342:Grek 345:Grek 358:Latn,Osge 35e:Aghb,Latn,Todr
  363-36f:Latn 374-375:Copt,Grek 483:Cyrl,Perm 484:Cyrl,Glag 485-486:Cyrl,Latn 487:Cyrl,Glag
  589:Armn,Geor,Glag 60c:Arab,Gara,Nkoo,Rohg,Syrc,Thaa,Yezi
  61b:Arab,Gara,Nkoo,Rohg,Syrc,Thaa,Yezi 61c:Arab,Syrc,Thaa
  61f:Adlm,Arab,Gara,Nkoo,Rohg,Syrc,Thaa,Yezi
  640:Adlm,Arab,Mand,Mani,Ougr,Phlp,Rohg,Sogd,Syrc 64b-655:Arab,Syrc 660-669:Arab,Thaa,Yezi
  670:Arab,Syrc 6d4:Arab,Rohg
  951:Beng,Deva,Gran,Gujr,Guru,Knda,Latn,Mlym,Orya,Shrd,Taml,Telu,Tirh
  952:Beng,Deva,Gran,Gujr,Guru,Knda,Latn,Mlym,Orya,Taml,Telu,Tirh
  964:Beng,Deva,Dogr,Gong,Gonm,Gran,Gujr,Guru,Knda,Mahj,Mlym,Nand,Onao,Orya,Sind,Sinh,Sylo,Takr,Taml,Telu,Tirh
  965:Beng,Deva,Dogr,Gong,Gonm,Gran,Gujr,Gukh,Guru,Knda,Limb,Mahj,Mlym,Nand,Onao,Orya,Sind,Sinh,Sylo,Takr,Taml,Telu,Tirh
  966-96f:Deva,Dogr,Kthi,Mahj 9e6-9ef:Beng,Cakm,Sylo a66-a6f:Guru,Mult ae6-aef:Gujr,Khoj
  be6-bf3:Gran,Taml ce6-cef:Knda,Nand,Tutg 1040-1049:Cakm,Mymr,Tale 10fb:Geor,Glag,Latn
  16eb-16ed:Runr 1735-1736:Buhd,Hano,Tagb,Tglg 1802-1803:Mong,Phag 1805:Mong,Phag
  1cd0:Beng,Deva,Gran,Knda 1cd1:Deva 1cd2:Beng,Deva,Gran,Knda 1cd3:Deva,Gran,Knda 1cd4:Deva
  1cd5-1cd6:Beng,Deva 1cd7:Deva,Shrd 1cd8:Beng,Deva 1cd9:Deva,Shrd
  1cda:Deva,Knda,Mlym,Orya,Taml,Telu 1cdb:Deva 1cdc-1cdd:Deva,Shrd 1cde-1cdf:Deva
  1ce0:Deva,Shrd 1ce1:Beng,Deva 1ce2-1ce8:Deva 1ce9:Deva,Nand 1cea:Beng,Deva 1ceb-1cec:Deva
  1ced:Beng,Deva 1cee-1cf1:Deva 1cf2:Beng,Deva,Gran,Knda,Mlym,Nand,Orya,Sinh,Telu,Tirh,Tutg
  1cf3:Deva,Gran 1cf4:Deva,Gran,Knda,Tutg 1cf5-1cf6:Beng,Deva 1cf7:Beng 1cf8-1cf9:Deva,Gran
  1cfa:Nand 1dc0-1dc1:Grek 1df8:Cyrl,Latn,Syrc 1dfa:Syrc 202f:Latn,Mong,Phag 204f:Adlm,Arab
  205a:Cari,Geor,Glag,Hung,Lyci,Orkh 205d:Cari,Grek,Hung,Mero 20f0:Deva,Gran,Latn
  2e17:Copt,Latn 2e30:Avst,Orkh 2e31:Avst,Cari,Geor,Hung,Kthi,Lydi,Samr 2e3c:Dupl
  2e41:Adlm,Arab,Hung 2e43:Cyrl,Glag 2ff0-2fff:Hani,Tang
  3001:Bopo,Hang,Hani,Hira,Kana,Mong,Yiii 3002:Bopo,Hang,Hani,Hira,Kana,Mong,Phag,Yiii
  3003:Bopo,Hang,Hani,Hira,Kana 3006:Hani 3008-3009:Bopo,Hang,Hani,Hira,Kana,Mong,Tibt,Yiii
  300a-300b:Bopo,Hang,Hani,Hira,Kana,Lisu,Mong,Tibt,Yiii
  300c-3011:Bopo,Hang,Hani,Hira,Kana,Yiii 3013:Bopo,Hang,Hani,Hira,Kana
  3014-301b:Bopo,Hang,Hani,Hira,Kana,Yiii 301c-301f:Bopo,Hang,Hani,Hira,Kana
  302a-302d:Bopo,Hani 3030:Bopo,Hang,Hani,Hira,Kana 3031-3035:Hira,Kana
  3037:Bopo,Hang,Hani,Hira,Kana 303c-303d:Hani,Hira,Kana 303e-303f:Hani 3099-309c:Hira,Kana
  30a0:Hira,Kana 30fb:Bopo,Hang,Hani,Hira,Kana,Yiii 30fc:Hira,Kana 3190-319f:Hani
  31c0-31e5:Hani 31ef:Hani,Tang 3220-3247:Hani 3280-32b0:Hani 32c0-32cb:Hani 32ff:Hani
  3358-3370:Hani 337b-337f:Hani 33e0-33fe:Hani a66f:Cyrl,Glag a700-a707:Hani,Latn
  a830-a832:Deva,Dogr,Gujr,Guru,Khoj,Knda,Kthi,Mahj,Mlym,Modi,Nand,Shrd,Sind,Takr,Tirh,Tutg
  a833-a835:Deva,Dogr,Gujr,Guru,Khoj,Knda,Kthi,Mahj,Modi,Nand,Shrd,Sind,Takr,Tirh,Tutg
  a836-a837:Deva,Dogr,Gujr,Guru,Khoj,Kthi,Mahj,Modi,Sind,Takr,Tirh
  a838:Deva,Dogr,Gujr,Guru,Khoj,Kthi,Mahj,Modi,Shrd,Sind,Takr,Tirh
  a839:Deva,Dogr,Gujr,Guru,Khoj,Kthi,Mahj,Modi,Sind,Takr,Tirh a8f1:Beng,Deva,Tutg
  a8f3:Deva,Taml a92e:Kali,Latn,Mymr a9cf:Bugi,Java fd3e-fd3f:Arab,Nkoo fdf2:Arab,Thaa
  fdfd:Arab,Thaa fe45-fe46:Bopo,Hang,Hani,Hira,Kana ff61-ff65:Bopo,Hang,Hani,Hira,Kana,Yiii
  ff70:Hira,Kana ff9e-ff9f:Hira,Kana 10100-10101:Cpmn,Cprt,Linb 10102:Cprt,Linb
  10107-10133:Cprt,Lina,Linb 10137-1013f:Cprt,Linb 102e0-102fb:Arab,Copt 10af2:Mani,Ougr
  11301:Gran,Taml 11303:Gran,Taml 1133b-1133c:Gran,Taml 11fd0-11fd1:Gran,Taml 11fd3:Gran,Taml
  1bca0-1bca3:Dupl 1d360-1d371:Hani 1f250-1f251:Hani"

/-- The code of each script with the names it goes by. -/
def names : List (String × List String) :=
  [("Adlm", ["adlm", "adlam"]), ("Aghb", ["aghb", "caucasianalbanian"]), ("Ahom", ["ahom"]),
   ("Arab", ["arab", "arabic"]), ("Armi", ["armi", "imperialaramaic"]),
   ("Armn", ["armn", "armenian"]), ("Avst", ["avst", "avestan"]),
   ("Bali", ["bali", "balinese"]), ("Bamu", ["bamu", "bamum"]), ("Bass", ["bass", "bassavah"]),
   ("Batk", ["batk", "batak"]), ("Beng", ["beng", "bengali"]), ("Bhks", ["bhks", "bhaiksuki"]),
   ("Bopo", ["bopo", "bopomofo"]), ("Brah", ["brah", "brahmi"]), ("Brai", ["brai", "braille"]),
   ("Bugi", ["bugi", "buginese"]), ("Buhd", ["buhd", "buhid"]), ("Cakm", ["cakm", "chakma"]),
   ("Cans", ["cans", "canadianaboriginal"]), ("Cari", ["cari", "carian"]), ("Cham", ["cham"]),
   ("Cher", ["cher", "cherokee"]), ("Chrs", ["chrs", "chorasmian"]),
   ("Copt", ["copt", "coptic", "qaac"]), ("Cpmn", ["cpmn", "cyprominoan"]),
   ("Cprt", ["cprt", "cypriot"]), ("Cyrl", ["cyrl", "cyrillic"]),
   ("Deva", ["deva", "devanagari"]), ("Diak", ["diak", "divesakuru"]),
   ("Dogr", ["dogr", "dogra"]), ("Dsrt", ["dsrt", "deseret"]), ("Dupl", ["dupl", "duployan"]),
   ("Egyp", ["egyp", "egyptianhieroglyphs"]), ("Elba", ["elba", "elbasan"]),
   ("Elym", ["elym", "elymaic"]), ("Ethi", ["ethi", "ethiopic"]), ("Gara", ["gara", "garay"]),
   ("Geor", ["geor", "georgian"]), ("Glag", ["glag", "glagolitic"]),
   ("Gong", ["gong", "gunjalagondi"]), ("Gonm", ["gonm", "masaramgondi"]),
   ("Goth", ["goth", "gothic"]), ("Gran", ["gran", "grantha"]), ("Grek", ["grek", "greek"]),
   ("Gujr", ["gujr", "gujarati"]), ("Gukh", ["gukh", "gurungkhema"]),
   ("Guru", ["guru", "gurmukhi"]), ("Hang", ["hang", "hangul"]), ("Hani", ["hani", "han"]),
   ("Hano", ["hano", "hanunoo"]), ("Hatr", ["hatr", "hatran"]), ("Hebr", ["hebr", "hebrew"]),
   ("Hira", ["hira", "hiragana"]), ("Hluw", ["hluw", "anatolianhieroglyphs"]),
   ("Hmng", ["hmng", "pahawhhmong"]), ("Hmnp", ["hmnp", "nyiakengpuachuehmong"]),
   ("Hung", ["hung", "oldhungarian"]), ("Ital", ["ital", "olditalic"]),
   ("Java", ["java", "javanese"]), ("Kali", ["kali", "kayahli"]),
   ("Kana", ["kana", "katakana"]), ("Kawi", ["kawi"]), ("Khar", ["khar", "kharoshthi"]),
   ("Khmr", ["khmr", "khmer"]), ("Khoj", ["khoj", "khojki"]),
   ("Kits", ["kits", "khitansmallscript"]), ("Knda", ["knda", "kannada"]),
   ("Krai", ["krai", "kiratrai"]), ("Kthi", ["kthi", "kaithi"]), ("Lana", ["lana", "taitham"]),
   ("Laoo", ["laoo", "lao"]), ("Latn", ["latn", "latin"]), ("Lepc", ["lepc", "lepcha"]),
   ("Limb", ["limb", "limbu"]), ("Lina", ["lina", "lineara"]), ("Linb", ["linb", "linearb"]),
   ("Lisu", ["lisu"]), ("Lyci", ["lyci", "lycian"]), ("Lydi", ["lydi", "lydian"]),
   ("Mahj", ["mahj", "mahajani"]), ("Maka", ["maka", "makasar"]),
   ("Mand", ["mand", "mandaic"]), ("Mani", ["mani", "manichaean"]),
   ("Marc", ["marc", "marchen"]), ("Medf", ["medf", "medefaidrin"]),
   ("Mend", ["mend", "mendekikakui"]), ("Merc", ["merc", "meroiticcursive"]),
   ("Mero", ["mero", "meroitichieroglyphs"]), ("Mlym", ["mlym", "malayalam"]),
   ("Modi", ["modi"]), ("Mong", ["mong", "mongolian"]), ("Mroo", ["mroo", "mro"]),
   ("Mtei", ["mtei", "meeteimayek"]), ("Mult", ["mult", "multani"]),
   ("Mymr", ["mymr", "myanmar"]), ("Nagm", ["nagm", "nagmundari"]),
   ("Nand", ["nand", "nandinagari"]), ("Narb", ["narb", "oldnortharabian"]),
   ("Nbat", ["nbat", "nabataean"]), ("Newa", ["newa"]), ("Nkoo", ["nkoo", "nko"]),
   ("Nshu", ["nshu", "nushu"]), ("Ogam", ["ogam", "ogham"]), ("Olck", ["olck", "olchiki"]),
   ("Onao", ["onao", "olonal"]), ("Orkh", ["orkh", "oldturkic"]), ("Orya", ["orya", "oriya"]),
   ("Osge", ["osge", "osage"]), ("Osma", ["osma", "osmanya"]), ("Ougr", ["ougr", "olduyghur"]),
   ("Palm", ["palm", "palmyrene"]), ("Pauc", ["pauc", "paucinhau"]),
   ("Perm", ["perm", "oldpermic"]), ("Phag", ["phag", "phagspa"]),
   ("Phli", ["phli", "inscriptionalpahlavi"]), ("Phlp", ["phlp", "psalterpahlavi"]),
   ("Phnx", ["phnx", "phoenician"]), ("Plrd", ["plrd", "miao"]),
   ("Prti", ["prti", "inscriptionalparthian"]), ("Rjng", ["rjng", "rejang"]),
   ("Rohg", ["rohg", "hanifirohingya"]), ("Runr", ["runr", "runic"]),
   ("Samr", ["samr", "samaritan"]), ("Sarb", ["sarb", "oldsoutharabian"]),
   ("Saur", ["saur", "saurashtra"]), ("Sgnw", ["sgnw", "signwriting"]),
   ("Shaw", ["shaw", "shavian"]), ("Shrd", ["shrd", "sharada"]), ("Sidd", ["sidd", "siddham"]),
   ("Sind", ["sind", "khudawadi"]), ("Sinh", ["sinh", "sinhala"]),
   ("Sogd", ["sogd", "sogdian"]), ("Sogo", ["sogo", "oldsogdian"]),
   ("Sora", ["sora", "sorasompeng"]), ("Soyo", ["soyo", "soyombo"]),
   ("Sund", ["sund", "sundanese"]), ("Sunu", ["sunu", "sunuwar"]),
   ("Sylo", ["sylo", "sylotinagri"]), ("Syrc", ["syrc", "syriac"]),
   ("Tagb", ["tagb", "tagbanwa"]), ("Takr", ["takr", "takri"]), ("Tale", ["tale", "taile"]),
   ("Talu", ["talu", "newtailue"]), ("Taml", ["taml", "tamil"]), ("Tang", ["tang", "tangut"]),
   ("Tavt", ["tavt", "taiviet"]), ("Telu", ["telu", "telugu"]), ("Tfng", ["tfng", "tifinagh"]),
   ("Tglg", ["tglg", "tagalog"]), ("Thaa", ["thaa", "thaana"]), ("Thai", ["thai"]),
   ("Tibt", ["tibt", "tibetan"]), ("Tirh", ["tirh", "tirhuta"]), ("Tnsa", ["tnsa", "tangsa"]),
   ("Todr", ["todr", "todhri"]), ("Toto", ["toto"]), ("Tutg", ["tutg", "tulutigalari"]),
   ("Ugar", ["ugar", "ugaritic"]), ("Vaii", ["vaii", "vai"]), ("Vith", ["vith", "vithkuqi"]),
   ("Wara", ["wara", "warangciti"]), ("Wcho", ["wcho", "wancho"]),
   ("Xpeo", ["xpeo", "oldpersian"]), ("Xsux", ["xsux", "cuneiform"]),
   ("Yezi", ["yezi", "yezidi"]), ("Yiii", ["yiii", "yi"]),
   ("Zanb", ["zanb", "zanabazarsquare"]), ("Zinh", ["zinh", "inherited", "qaai"]),
   ("Zyyy", ["zyyy", "common"])]

def code? (name : String) : Option String :=
  (names.find? (·.2.contains name)).map (·.1)

/-- The characters of a script. -/
def chars (code : String) : CharSet := Table.select table (· == code)

/-- Intervals with the codes of the scripts they are used in. -/
def extensions : List ((Nat × Nat) × List String) :=
  (Table.items extensionText).map fun item =>
    let (range, codes) := cut ':' item
    (Table.interval range, (pieces ',' (codes.getD [])).map String.ofList)

/-- The characters in use in a script: those of the script, corrected by the
characters of which other scripts in use are listed. -/
def charsInUse (code : String) : CharSet :=
  let listed := CharSet.ofRanges (extensions.map (·.1))
  let used := (extensions.filter (·.2.contains code)).map (·.1)
  ((chars code).diff listed).union (.ofRanges used)

end RecordValidation.Script
